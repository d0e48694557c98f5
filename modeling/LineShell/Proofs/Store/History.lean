import Mathlib.Data.Set.Card
import LineShell.Proofs.Session.Frame

/-! # Histories of a store

What a store holds and what it records is decided by the requests that were made to it: the last
request about a name counts, and a binding that is rejected is no request about any name. -/

namespace LineShell

namespace Store

/-- A request to a store. -/
inductive Operation
  | set (name value : Text)
  | unset (name : Text)
  deriving DecidableEq, Repr

/-- The bindings that a store accepts. -/
def Acceptable (name value : Text) : Prop := name ≠ [] ∧ name.size ≤ 255 ∧ value.size ≤ 255

instance (name value : Text) : Decidable (Acceptable name value) :=
  inferInstanceAs (Decidable (_ ∧ _ ∧ _))

/-- Why a binding is rejected: no name, or else too long a name, or else too long a value. -/
inductive Rejection : Text → Text → StoreError → Prop
  | emptyName (value : Text) : Rejection [] value .emptyName
  | nameTooLong {name : Text} (value : Text) (h : 255 < name.size) :
    Rejection name value (.nameTooLong name.size)
  | valueTooLong {name value : Text} (hempty : name ≠ []) (hname : name.size ≤ 255)
      (h : 255 < value.size) :
    Rejection name value (.valueTooLong value.size)

/-- The store after a request. -/
def after (s : Store) : Operation → Store
  | .set name value =>
    match s.set name value with
    | .error _ => s
    | .ok t => t
  | .unset name => s.erase name

/-- What a store records at a request. -/
def records (s : Store) : Operation → List Event
  | .set name value =>
    match s.set name value with
    | .error _ => []
    | .ok _ => s.setEvents name
  | .unset name => s.unsetEvents name

/-- The store after requests to an empty one. -/
def history (ops : List Operation) : Store := ops.foldl after empty

/-! ## One request -/

section
variable {s : Store} {name value : Text}

theorem set_of_acceptable (h : Acceptable name value) :
    s.set name value = .ok (s.insert name value) :=
  set_eq_ok_iff.mpr ⟨h.1, h.2.1, h.2.2, rfl⟩

theorem set_eq_error_iff_rejection {e : StoreError} :
    s.set name value = .error e ↔ Rejection name value e := by
  rw [set_eq_error_iff]
  constructor
  · intro h
    fun_cases check name value with
    | case1 hempty =>
        rw [check, if_pos hempty] at h
        cases h
        exact hempty ▸ .emptyName value
    | case2 hempty hname =>
        rw [check, if_neg hempty, if_pos hname] at h
        cases h
        exact .nameTooLong value hname
    | case3 hempty hname hvalue =>
        rw [check, if_neg hempty, if_neg hname, if_pos hvalue] at h
        cases h
        exact .valueTooLong hempty (Nat.le_of_not_lt hname) hvalue
    | case4 hempty hname hvalue =>
        rw [check, if_neg hempty, if_neg hname, if_neg hvalue] at h
        cases h
  · intro h
    cases h with
    | emptyName value => rfl
    | nameTooLong value h =>
        have hempty : name ≠ [] := by
          rintro rfl
          cases h
        have hlong : name.size > maxName := h
        rw [check, if_neg hempty, if_pos hlong]
    | valueTooLong hempty hname h =>
        have hshort : ¬ name.size > maxName := Nat.not_lt.mpr hname
        have hlong : value.size > maxValue := h
        rw [check, if_neg hempty, if_neg hshort, if_pos hlong]

theorem exists_set_eq_error (h : ¬ Acceptable name value) :
    ∃ e, s.set name value = .error e := by
  cases hset : s.set name value with
  | error e => exact ⟨e, rfl⟩
  | ok t =>
      obtain ⟨hne, hname, hvalue, -⟩ := set_eq_ok_iff.mp hset
      exact absurd ⟨hne, hname, hvalue⟩ h

theorem after_set_of_acceptable (h : Acceptable name value) :
    s.after (.set name value) = s.insert name value := by
  rw [after, set_of_acceptable h]

theorem after_set_of_not_acceptable (h : ¬ Acceptable name value) :
    s.after (.set name value) = s := by
  obtain ⟨e, he⟩ := exists_set_eq_error (s := s) h
  rw [after, he]

theorem records_set_of_acceptable (h : Acceptable name value) :
    s.records (.set name value) = s.setEvents name := by
  rw [records, set_of_acceptable h]

theorem records_set_of_not_acceptable (h : ¬ Acceptable name value) :
    s.records (.set name value) = [] := by
  obtain ⟨e, he⟩ := exists_set_eq_error (s := s) h
  rw [records, he]

end

/-! ## What counts for a name -/

/-- A request that decides about a name: a binding of it that is accepted, or its removal. -/
def Operation.Decides (name : Text) (op : Operation) : Prop :=
  (∃ value, op = .set name value ∧ Acceptable name value) ∨ op = .unset name

/-- Requests after which a name has a value: the last one to decide about the name gave it that
value. -/
def Binds (ops : List Operation) (name value : Text) : Prop :=
  ∃ before later, ops = before ++ .set name value :: later ∧ Acceptable name value ∧
    ∀ op ∈ later, ¬ op.Decides name

theorem get?_after_eq_some_iff {s : Store} {op : Operation} {name value : Text} :
    (s.after op).get? name = some value ↔
      op = .set name value ∧ Acceptable name value ∨
        ¬ op.Decides name ∧ s.get? name = some value := by
  cases op with
  | set other text =>
      by_cases hok : Acceptable other text
      · rw [after_set_of_acceptable hok, get?_insert]
        by_cases hname : name = other
        · subst hname
          have hdecides : (Operation.set name text).Decides name := .inl ⟨text, rfl, hok⟩
          rw [if_pos rfl, Option.some_inj]
          constructor
          · rintro rfl
            exact .inl ⟨rfl, hok⟩
          · rintro (⟨hop, -⟩ | ⟨hnot, -⟩)
            · cases hop
              rfl
            · exact absurd hdecides hnot
        · rw [if_neg hname]
          simp [Operation.Decides, Ne.symm hname]
      · rw [after_set_of_not_acceptable hok]
        have hnot : ¬ (Operation.set other text).Decides name := by
          rintro (⟨value, hop, hvalue⟩ | hop)
          · cases hop
            exact hok hvalue
          · cases hop
        constructor
        · exact fun h => .inr ⟨hnot, h⟩
        · rintro (⟨hop, hvalue⟩ | ⟨-, h⟩)
          · cases hop
            exact absurd hvalue hok
          · exact h
  | unset other =>
      rw [after, get?_erase]
      by_cases hname : name = other
      · simp [Operation.Decides, hname]
      · simp [Operation.Decides, hname, Ne.symm hname]

theorem binds_cons_iff {op : Operation} {ops : List Operation} {name value : Text} :
    Binds (op :: ops) name value ↔
      Binds ops name value ∨
        op = .set name value ∧ Acceptable name value ∧ ∀ op ∈ ops, ¬ op.Decides name := by
  constructor
  · rintro ⟨before, later, hops, hok, hlater⟩
    cases before with
    | nil =>
        cases hops
        exact .inr ⟨rfl, hok, hlater⟩
    | cons _ before =>
        cases hops
        exact .inl ⟨before, later, rfl, hok, hlater⟩
  · rintro (⟨before, later, rfl, hok, hlater⟩ | ⟨rfl, hok, hops⟩)
    · exact ⟨op :: before, later, rfl, hok, hlater⟩
    · exact ⟨[], ops, rfl, hok, hops⟩

/-- Either a request has decided about the name, or none has and it is as it was. -/
theorem get?_foldl_after_iff {s : Store} {ops : List Operation} {name value : Text} :
    (ops.foldl after s).get? name = some value ↔
      Binds ops name value ∨ s.get? name = some value ∧ ∀ op ∈ ops, ¬ op.Decides name := by
  induction ops generalizing s with
  | nil => simp [Binds]
  | cons op ops ih =>
      rw [List.foldl_cons, ih, binds_cons_iff, get?_after_eq_some_iff, List.forall_mem_cons]
      grind

theorem get?_history_iff {ops : List Operation} {name value : Text} :
    (history ops).get? name = some value ↔ Binds ops name value := by
  rw [history, get?_foldl_after_iff]
  exact or_iff_left fun h => Option.some_ne_none _ h.1.symm

example : (history [.set ['A'] ['1'], .set ['A'] ['2'], .set [] ['3'], .unset ['B']]).get? ['A'] =
    some ['2'] := by decide

theorem get?_history_eq_none_iff {ops : List Operation} {name : Text} :
    (history ops).get? name = none ↔ ∀ value, ¬ Binds ops name value := by
  rw [Option.eq_none_iff_forall_ne_some]
  exact forall_congr' fun value => not_congr get?_history_iff

/-! ## What is recorded -/

theorem records_set_eq_iff {s : Store} {name value old : Text} :
    s.records (.set name value) = [.replaced name old] ↔
      Acceptable name value ∧ s.get? name = some old := by
  by_cases hok : Acceptable name value
  · rw [records_set_of_acceptable hok, setEvents]
    cases s.get? name <;> simp [hok]
  · simp [records_set_of_not_acceptable hok, hok]

theorem records_set_eq_nil_iff {s : Store} {name value : Text} :
    s.records (.set name value) = [] ↔ ¬ Acceptable name value ∨ s.get? name = none := by
  by_cases hok : Acceptable name value
  · rw [records_set_of_acceptable hok, setEvents]
    cases s.get? name <;> simp [hok]
  · simp [records_set_of_not_acceptable hok, hok]

theorem records_unset_eq_iff {s : Store} {name : Text} :
    s.records (.unset name) = [.notBound name] ↔ s.get? name = none := by
  rw [records, unsetEvents]
  cases s.get? name <;> simp

theorem records_unset_eq_nil_iff {s : Store} {name : Text} :
    s.records (.unset name) = [] ↔ ∃ value, s.get? name = some value := by
  rw [records, unsetEvents]
  cases s.get? name <;> simp

/-! ## Numbers of variables -/

theorem mem_names_iff {s : Store} {name : Text} :
    name ∈ s.bindings.map Prod.fst ↔ (s.get? name).isSome := by
  rw [Option.isSome_iff_exists, List.mem_map]
  constructor
  · rintro ⟨⟨_, value⟩, hmem, rfl⟩
    exact ⟨value, get?_eq_some_iff.mpr hmem⟩
  · rintro ⟨value, h⟩
    exact ⟨(name, value), get?_eq_some_iff.mp h, rfl⟩

/-- Removal takes away one binding if the name is bound, since no name is bound twice. -/
theorem size_erase (s : Store) (name : Text) :
    (s.erase name).size + (if (s.get? name).isSome then 1 else 0) = s.size := by
  have hcount : s.bindings.countP (fun b => b.1 = name) =
      if (s.get? name).isSome then 1 else 0 := by
    have hnames := s.distinct.count (a := name)
    rw [List.count, List.countP_map] at hnames
    simp only [mem_names_iff] at hnames
    rw [← hnames]
    exact List.countP_congr fun b _ => by simp
  have hrest : (s.erase name).bindings.length =
      s.bindings.countP (fun b => ¬ decide (b.1 = name) = true) := by
    rw [erase, ← List.countP_eq_length_filter]
    exact List.countP_congr fun b _ => by simp
  rw [← hcount, size, size, hrest,
    List.length_eq_countP_add_countP (fun b : Text × Text => b.1 = name), Nat.add_comm]

theorem size_insert (s : Store) (name value : Text) :
    (s.insert name value).size = (s.erase name).size + 1 := rfl

/-- The bindings of a store are as many as the names that it binds. -/
theorem ncard_bound (s : Store) : {name | (s.get? name).isSome}.ncard = s.size := by
  have hnames : {name | (s.get? name).isSome} = ↑(s.bindings.map Prod.fst).toFinset := by
    ext name
    rw [Set.mem_ofPred_eq, ← mem_names_iff, List.coe_toFinset, Set.mem_ofPred_eq]
  rw [hnames, Set.ncard_coe_finset, List.toFinset_card_of_nodup s.distinct, List.length_map, size]

/-- Requests in order, each with what is recorded at it. -/
def trail (s : Store) : List Operation → List (Operation × List Event)
  | [] => []
  | op :: ops => (op, s.records op) :: (s.after op).trail ops

/-- The bindings that are accepted. -/
def Operation.isAccepted : Operation → Bool
  | .set name value => decide (Acceptable name value)
  | .unset _ => false

def Operation.isUnset : Operation → Bool
  | .set _ _ => false
  | .unset _ => true

/-- The records of a value that is lost to a new one. -/
def isReplaced : Event → Bool
  | .replaced _ _ => true
  | _ => false

/-- How many bindings are accepted. -/
def accepted (requests : List (Operation × List Event)) : Nat :=
  requests.countP fun request => request.1.isAccepted

/-- How many records there are of a value that is lost to a new one. -/
def replaced (requests : List (Operation × List Event)) : Nat :=
  (requests.flatMap Prod.snd).countP isReplaced

/-- How many removals there are without a record. -/
def silent (requests : List (Operation × List Event)) : Nat :=
  requests.countP fun request => request.1.isUnset && request.2.isEmpty

section
variable (request : Operation × List Event) (requests : List (Operation × List Event))

theorem accepted_cons :
    accepted (request :: requests) = accepted [request] + accepted requests := by
  rw [accepted, ← List.singleton_append, List.countP_append]
  rfl

theorem replaced_cons :
    replaced (request :: requests) = replaced [request] + replaced requests := by
  simp [replaced]

theorem silent_cons : silent (request :: requests) = silent [request] + silent requests := by
  rw [silent, ← List.singleton_append, List.countP_append]
  rfl

end

/-- A binding that replaces none, and no other request, makes a store larger; a removal without a
record, and no other request, makes it smaller. -/
theorem size_after (s : Store) (op : Operation) :
    (s.after op).size + replaced [(op, s.records op)] + silent [(op, s.records op)] =
      s.size + accepted [(op, s.records op)] := by
  cases op with
  | set name value =>
      have hsilent : ∀ events, silent [(Operation.set name value, events)] = 0 := fun _ => rfl
      by_cases hok : Acceptable name value
      · have haccepted : ∀ events, accepted [(Operation.set name value, events)] = 1 := by
          simp [accepted, Operation.isAccepted, hok]
        have hsize := s.size_erase name
        rw [after_set_of_acceptable hok, records_set_of_acceptable hok, size_insert, hsilent,
          haccepted, setEvents]
        cases h : s.get? name with
        | none =>
            have hreplaced : replaced [(Operation.set name value, [])] = 0 := rfl
            rw [h] at hsize
            rw [hreplaced, ← hsize]
            rfl
        | some old =>
            have hreplaced : replaced [(Operation.set name value, [.replaced name old])] = 1 := rfl
            rw [h] at hsize
            rw [hreplaced, ← hsize]
            rfl
      · have haccepted : accepted [(Operation.set name value, [])] = 0 := by
          simp [accepted, Operation.isAccepted, hok]
        rw [after_set_of_not_acceptable hok, records_set_of_not_acceptable hok, hsilent, haccepted]
        rfl
  | unset name =>
      have hsize := s.size_erase name
      rw [after, records, unsetEvents]
      cases h : s.get? name with
      | none =>
          rw [h] at hsize
          rw [← hsize]
          rfl
      | some old =>
          rw [h] at hsize
          rw [← hsize]
          rfl

theorem size_foldl_after (s : Store) (ops : List Operation) :
    (ops.foldl after s).size + replaced (s.trail ops) + silent (s.trail ops) =
      s.size + accepted (s.trail ops) := by
  induction ops generalizing s with
  | nil => rfl
  | cons op ops ih =>
      have hstep := s.size_after op
      have hrest := ih (s.after op)
      rw [List.foldl_cons, trail, accepted_cons, replaced_cons, silent_cons]
      omega

end Store

/-! ## Commands as requests -/

/-- The request that a command makes to the variables, if it makes one. -/
def Store.Operation.ofWords? : List Text → Option Store.Operation
  | [] => none
  | command :: args =>
    match Builtin.ofName? command, args with
    | some .set, name :: word :: words => some (.set name (Text.unwords (word :: words)))
    | some .unset, [name] => some (.unset name)
    | _, _ => none

theorem Store.Operation.ofWords?_set (name word : Text) (words : List Text) :
    ofWords? (Builtin.set.name :: name :: word :: words) =
      some (.set name (Text.unwords (word :: words))) := rfl

theorem Store.Operation.ofWords?_unset (name : Text) :
    ofWords? [Builtin.unset.name, name] = some (.unset name) := rfl

theorem Store.Operation.ofWords?_of_none {program : Text} (hp : Builtin.ofName? program = none)
    (args : List Text) : ofWords? (program :: args) = none := by
  simp [ofWords?, hp]

/-- The records of variables. -/
def Event.isOfStore : Event → Bool
  | .replaced _ _ | .notBound _ => true
  | _ => false

/-- The records of variables among actions. -/
def Action.ofStore? (action : Action) : Option Event := action.event?.filter Event.isOfStore

theorem Action.filterMap_ofStore?_log (events : List Event) :
    (events.map Action.log).filterMap Action.ofStore? = events.filter Event.isOfStore := by
  rw [List.filterMap_map, ← List.filterMap_eq_filter]
  exact List.filterMap_congr fun event _ => Option.filter_some

theorem Store.filter_setEvents (s : Store) (name : Text) :
    (s.setEvents name).filter Event.isOfStore = s.setEvents name := by
  rw [setEvents]
  cases s.get? name <;> rfl

theorem Store.filter_unsetEvents (s : Store) (name : Text) :
    (s.unsetEvents name).filter Event.isOfStore = s.unsetEvents name := by
  rw [unsetEvents]
  cases s.get? name <;> rfl

namespace Shell

variable {Files Dir : Type} [Host Files Dir]

/-- A command that fails makes no request, or one that is rejected. -/
theorem Failure.ofWords? {sh : Shell Files Dir} {command : Text} {args : List Text} {e : LineError}
    (h : sh.Failure command args e) :
    (Store.Operation.ofWords? (command :: args)).elim sh.store sh.store.after = sh.store ∧
      (Store.Operation.ofWords? (command :: args)).elim [] sh.store.records = [] := by
  cases h with
  | cdMissing | cdTooMany | cdNul | cd | pwd => exact ⟨rfl, rfl⟩
  | setMissing | setNameOnly | unsetMissing | unsetTooMany => exact ⟨rfl, rfl⟩
  | @set name word words reason h =>
      rw [Store.Operation.ofWords?_set, Option.elim_some, Option.elim_some, Store.after,
        Store.records, h]
      exact ⟨rfl, rfl⟩
  | nul hp | notFound hp | spawn hp =>
      rw [Store.Operation.ofWords?_of_none hp]
      exact ⟨rfl, rfl⟩

/-- What a command does to the variables, and what it records of them, is what its request does. -/
theorem Effect.ofWords? {sh : Shell Files Dir} {words : List Text} {o : Outcome Files Dir Unit}
    (h : sh.Effect words o) :
    o.shell.store = (Store.Operation.ofWords? words).elim sh.store sh.store.after ∧
      o.actions.filterMap Action.ofStore? =
        (Store.Operation.ofWords? words).elim [] sh.store.records := by
  cases h with
  | nothing => exact ⟨rfl, rfl⟩
  | @failed command args e h =>
      rw [h.ofWords?.1, h.ofWords?.2, Event.ofCommand]
      split <;> exact ⟨rfl, rfl⟩
  | moved | printed => exact ⟨rfl, rfl⟩
  | @bound name word words store h =>
      rw [Store.Operation.ofWords?_set, Option.elim_some, Option.elim_some, Store.after,
        Store.records, h]
      refine ⟨rfl, ?_⟩
      rw [List.filterMap_cons_none rfl, Action.filterMap_ofStore?_log, Store.filter_setEvents]
  | removed name =>
      rw [Store.Operation.ofWords?_unset, Option.elim_some, Option.elim_some, Store.after,
        Store.records]
      refine ⟨rfl, ?_⟩
      rw [List.filterMap_cons_none rfl, Action.filterMap_ofStore?_log, Store.filter_unsetEvents]
  | @ran program args files child status hp =>
      rw [Store.Operation.ofWords?_of_none hp]
      refine ⟨rfl, ?_⟩
      cases status.success <;> rfl
  | lost hp =>
      rw [Store.Operation.ofWords?_of_none hp]
      exact ⟨rfl, rfl⟩

/-- The variables after commands, and all that the commands record of them, are those of the requests
that they make. -/
theorem commands_requests (sh : Shell Files Dir) (calls : List (List Text)) :
    let requests := calls.filterMap Store.Operation.ofWords?
    (sh.commands calls).store = requests.foldl Store.after sh.store ∧
      (sh.trail calls).flatMap (fun call =>
          (call.1.dispatch call.2).actions.filterMap Action.ofStore?) =
        (sh.store.trail requests).flatMap Prod.snd := by
  induction calls generalizing sh with
  | nil => exact ⟨rfl, rfl⟩
  | cons words calls ih =>
      obtain ⟨hstore, hrecords⟩ := (sh.effect_dispatch words).ofWords?
      obtain ⟨hstores, htrail⟩ := ih (sh.dispatch words).shell
      intro requests
      rw [trail, List.flatMap_cons, hrecords, htrail]
      cases h : Store.Operation.ofWords? words with
      | none =>
          rw [h, Option.elim_none] at hstore
          have hrequests : requests = calls.filterMap Store.Operation.ofWords? :=
            List.filterMap_cons_none h
          rw [hrequests, ← hstore]
          exact ⟨hstores, rfl⟩
      | some op =>
          rw [h, Option.elim_some] at hstore
          have hrequests : requests = op :: calls.filterMap Store.Operation.ofWords? :=
            List.filterMap_cons_some h
          rw [hrequests, List.foldl_cons, Store.trail, List.flatMap_cons, ← hstore]
          exact ⟨hstores, rfl⟩

end Shell

/-! ## The law -/

/-- A name has the value that the last request to decide about it gave it, and none if that was a
removal or there is none. A binding is rejected for the first reason that there is, and then every name
keeps its value. What is recorded is whether the name was bound before, in words that show the name and
the value that it loses, and the number of bound names is that of the accepted bindings, less those that
were recorded to replace a value and the removals without a record. Commands make such requests and do
nothing else to the variables. -/
theorem Store.history_spec {Files Dir : Type} [Host Files Dir] (ops : List Operation)
    (name : Text) :
    (∀ value, (history ops).get? name = some value ↔ Binds ops name value) ∧
    ((history ops).get? name = none ↔ ∀ value, ¬ Binds ops name value) ∧
    (∀ value, (∃ t, (history ops).set name value = .ok t) ↔ Acceptable name value) ∧
    (∀ value e, (history ops).set name value = .error e ↔ Rejection name value e) ∧
    (∀ value e, Rejection name value e →
      ∀ other, (history (ops ++ [.set name value])).get? other = (history ops).get? other) ∧
    (∀ value old, (history ops).records (.set name value) = [.replaced name old] ↔
      Acceptable name value ∧ Binds ops name old) ∧
    (∀ value, (history ops).records (.set name value) = [] ↔
      ¬ Acceptable name value ∨ ∀ old, ¬ Binds ops name old) ∧
    ((history ops).records (.unset name) = [.notBound name] ↔ ∀ old, ¬ Binds ops name old) ∧
    ((history ops).records (.unset name) = [] ↔ ∃ old, Binds ops name old) ∧
    (∀ old, (Event.replaced name old).message =
      "set ".toList ++ name ++ ": replaced ".toList ++ Text.quoted old) ∧
    (Event.notBound name).message = "unset ".toList ++ name ++ ": not bound".toList ∧
    {name | ((history ops).get? name).isSome}.ncard + replaced (empty.trail ops) +
      silent (empty.trail ops) = accepted (empty.trail ops) ∧
    ∀ (sh : Shell Files Dir) (calls : List (List Text)), sh.store = empty →
      let requests := calls.filterMap Operation.ofWords?
      (sh.commands calls).store = history requests ∧
        (sh.trail calls).flatMap
            (fun call => (call.1.dispatch call.2).actions.filterMap Action.ofStore?) =
          (empty.trail requests).flatMap Prod.snd := by
  refine ⟨fun value => get?_history_iff, get?_history_eq_none_iff, ?accepted,
    fun value e => set_eq_error_iff_rejection, ?rejected, ?replaced, ?unrecorded, ?notBound, ?silent,
    fun old => rfl, rfl, ?size, ?commands⟩
  case accepted =>
    intro value
    constructor
    · rintro ⟨t, ht⟩
      obtain ⟨hne, hname, hvalue, -⟩ := set_eq_ok_iff.mp ht
      exact ⟨hne, hname, hvalue⟩
    · exact fun hok => ⟨_, set_of_acceptable hok⟩
  case rejected =>
    intro value e h other
    have hset := set_eq_error_iff_rejection (s := history ops).mpr h
    rw [history, List.foldl_append, List.foldl_cons, List.foldl_nil, ← history, after, hset]
  case replaced =>
    intro value old
    rw [records_set_eq_iff, get?_history_iff]
  case unrecorded =>
    intro value
    rw [records_set_eq_nil_iff, get?_history_eq_none_iff]
  case notBound => rw [records_unset_eq_iff, get?_history_eq_none_iff]
  case silent => simp only [records_unset_eq_nil_iff, get?_history_iff]
  case size =>
    rw [ncard_bound, history, size_foldl_after]
    exact Nat.zero_add _
  case commands =>
    intro sh calls hempty
    have hrequests := sh.commands_requests calls
    rw [hempty] at hrequests
    exact hrequests

end LineShell
