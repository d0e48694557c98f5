import LineShell.Proofs.Prepare.Equations
import Mathlib.Data.List.Basic

/-! # Names that a line refers to

A reference is a `$` with a name behind it that goes on as far as it can. Expansion looks up just the
names of a line's references, so where these have the same values the line is prepared in the same
way, with the same records. -/

namespace LineShell

open Text

/-! ## References of a line -/

/-- A line refers to a name if a `$` stands in it with this name behind it, and no further name character
behind the name. -/
def Text.RefersTo (line name : Text) : Prop :=
  ∃ front rest, line = front ++ '$' :: (name ++ rest) ∧ (∀ c ∈ name, isNameChar c) ∧
    ∀ c ∈ rest.head?, ¬ isNameChar c

theorem Text.RefersTo.append {t name : Text} (h : t.RefersTo name) (s : Text) :
    (s ++ t).RefersTo name := by
  obtain ⟨front, rest, rfl, hname, hrest⟩ := h
  exact ⟨s ++ front, rest, (List.append_assoc ..).symm, hname, hrest⟩

namespace Decomposition

theorem map_name_behind (e : Decomposition) (front : Text) (rs : List Reference) :
    (e.behind front rs).references.map Reference.name =
      rs.map Reference.name ++ e.references.map Reference.name := by
  induction rs generalizing front with
  | nil => rfl
  | cons r rs ih => rw [behind, List.map_cons, List.map_cons, List.cons_append, ih]

theorem IsMaximal.refersTo {d : Decomposition} (h : d.IsMaximal) {r : Reference}
    (hr : r ∈ d.references) : d.source.RefersTo r.name := by
  obtain ⟨front, references⟩ := d
  induction references generalizing front with
  | nil => cases hr
  | cons first rest ih =>
      obtain ⟨-, hname, -, htail⟩ := isMaximal_cons_iff.mp h
      rw [source_cons]
      rcases List.mem_cons.mp hr with rfl | hr
      · exact ⟨front, _, rfl, hname, h.not_isNameChar_behind⟩
      · have hrest := ih first.literal htail hr
        rw [← List.cons_append, ← List.append_assoc]
        exact hrest.append _

end Decomposition

/-- The names that a line refers to are those of its references. -/
theorem Text.refersTo_iff {line name : Text} :
    line.RefersTo name ↔ name ∈ line.decompose.references.map Reference.name := by
  constructor
  · rintro ⟨front, rest, rfl, hname, hrest⟩
    -- No name goes on with a `$`, so the line may be cut in front of one.
    have hcut : SplitsNoReference front ('$' :: (name ++ rest)) := by
      refine .inl fun c hc => ?_
      obtain rfl : '$' = c := Option.some.inj hc
      exact not_isNameChar_dollar
    rw [decompose_append hcut, Decomposition.map_name_behind, decompose_reference hname hrest]
    exact List.mem_append_right _ List.mem_cons_self
  · intro h
    obtain ⟨r, hr, rfl⟩ := List.mem_map.mp h
    have hrefers := (isMaximal_decompose line).refersTo hr
    rwa [source_decompose] at hrefers

instance (line name : Text) : Decidable (line.RefersTo name) :=
  decidable_of_iff _ (refersTo_iff.trans List.mem_map).symm

theorem Text.substitute_congr {line : Text} {f g : Text → Text}
    (h : ∀ name, line.RefersTo name → f name = g name) : line.substitute f = line.substitute g := by
  rw [substitute, substitute, Decomposition.render, Decomposition.render]
  refine congrArg _ (List.flatMap_congr fun r hr => ?_)
  rw [h r.name (refersTo_iff.mpr (List.mem_map_of_mem hr))]

theorem Text.refersTo_of_mem_pieces {line name : Text} (h : .reference name ∈ line.pieces) :
    line.RefersTo name := by
  rw [pieces_eq_decompose] at h
  rw [refersTo_iff, List.mem_map]
  simpa [Decomposition.pieces, eq_comm] using h

/-! ## What is looked up -/

section
variable {s t : Store}

theorem fill_congr {pieces : List Piece}
    (h : ∀ name, .reference name ∈ pieces → s.get? name = t.get? name) (buffer : Text) :
    fill s buffer pieces = fill t buffer pieces := by
  induction pieces generalizing buffer with
  | nil => rfl
  | cons piece rest ih =>
      have hrest := ih fun name hname => h name (List.mem_cons_of_mem piece hname)
      cases piece with
      | literal text => simp only [fill, hrest]
      | reference name => simp only [fill, h name List.mem_cons_self, hrest]

theorem expand_congr {line : Text} (h : ∀ name, line.RefersTo name → s.get? name = t.get? name) :
    expand s line = expand t line := by
  rw [expand, expand, scan, scan, fill_congr fun name hname => h name (refersTo_of_mem_pieces hname)]

theorem prepare_congr {line : Text} (h : ∀ name, line.RefersTo name → s.get? name = t.get? name) :
    prepare s line = prepare t line := by
  rw [prepare, prepare, prepareWith, prepareWith, expand_congr h]

end

end LineShell
