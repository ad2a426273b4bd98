import GridSource.Proofs.Filter.Visits
import GridSource.Proofs.Outcome

/-!
# Filters and their written forms

Not every filter can be read off a raw one: a terminal is no sequence, a comparison has a
field name and no connective for its operator, and a connective is one of the grammar or the
implied one.  The main result is that these filters are exactly the ones that are read, and
that each of them has a written form that is read as this filter.  The shapes of raw filters
overlap, so a written form may have to wrap one of its parts.
-/

namespace GridSource.Filter

variable (connectives : List String)

/-- The filters that raw filters are read as. -/
inductive WellFormed : Filter → Prop where
  | absent : WellFormed .absent
  | terminal {value : Value} (hvalue : value.isSequence = false) : WellFormed (.terminal value)
  | negation {operand : Filter} (hoperand : WellFormed operand) : WellFormed (.negation operand)
  | connective {name : String} {left right : Filter}
      (hname : name ∈ connectives ∨ name = "and") (hleft : WellFormed left)
      (hright : WellFormed right) : WellFormed (.connective (.text name) left right)
  | comparison (field : String) {operator : Value} {operand : Filter}
      (hoperator : ∀ name ∈ connectives, operator ≠ .text name)
      (hoperand : WellFormed operand) : WellFormed (.comparison (.text field) operator operand)

/-- A raw filter that is read as the given one. -/
def written : Filter → Value
  | .absent => .list []
  | .terminal value | .stray value => value
  | .negation operand => .list [.text negationMark, written operand]
  | .connective operator left right =>
      if isConnective connectives operator then
        .list [written left, operator, written right]
      else
        -- The left side is wrapped, because a terminal there may be the negation mark.
        .list [.list [written left], written right]
  | .comparison field operator operand => .list [field, operator, written operand]

variable {connectives}

theorem isConnective_text_iff {name : String} :
    isConnective connectives (.text name) = true ↔ name ∈ connectives := by
  simp [isConnective]

theorem exists_text_of_isConnective {operator : Value}
    (hoperator : isConnective connectives operator = true) :
    ∃ name ∈ connectives, operator = .text name := by
  cases operator with
  | text name => exact ⟨name, isConnective_text_iff.mp hoperator, rfl⟩
  | _ => contradiction

theorem isConnective_eq_false_iff {operator : Value} :
    isConnective connectives operator = false ↔ ∀ name ∈ connectives, operator ≠ .text name := by
  constructor
  · rintro hoperator name hname rfl
    rw [isConnective_text_iff.mpr hname] at hoperator
    contradiction
  · intro hother
    by_contra hoperator
    rw [Bool.not_eq_false] at hoperator
    obtain ⟨name, hname, rfl⟩ := exists_text_of_isConnective hoperator
    exact hother name hname rfl

/-- What is read is well-formed. -/
theorem wellFormed_of_ofValue {raw : Value} {filter : Filter}
    (hread : ofValue connectives raw = .ok filter) : WellFormed connectives filter := by
  induction raw using parts_induction connectives generalizing filter with
  | step raw ih =>
    cases nodeKind connectives raw with
    | leaf hnode hparts hleaf =>
        obtain rfl := Except.ok.inj (hleaf.symm.trans hread)
        exact .terminal (Value.isSequence_eq_false_iff.mpr hnode)
    | wrapped inner hnode hparts hinner =>
        exact ih inner (by simp [hparts]) (hinner.symm.trans hread)
    | negation mark operand hnode hmark hparts hnegation =>
        rw [hnegation, Outcome.map_eq_ok_iff] at hread
        obtain ⟨inner, hinner, rfl⟩ := hread
        exact .negation (ih operand (by simp [hparts]) hinner)
    | pair left right hnode hmark hparts hpair =>
        rw [hpair] at hread
        obtain ⟨first, hfirst, hread⟩ := Outcome.bind_eq_ok_iff.mp hread
        obtain ⟨second, hsecond, rfl⟩ := Outcome.map_eq_ok_iff.mp hread
        exact .connective (.inr rfl) (ih left (by simp [hparts]) hfirst)
          (ih right (by simp [hparts]) hsecond)
    | connective left operator right hnode hoperator hparts hconnective =>
        rw [hconnective] at hread
        obtain ⟨first, hfirst, hread⟩ := Outcome.bind_eq_ok_iff.mp hread
        obtain ⟨second, hsecond, rfl⟩ := Outcome.map_eq_ok_iff.mp hread
        obtain ⟨name, hname, rfl⟩ := exists_text_of_isConnective hoperator
        exact .connective (.inl hname) (ih left (by simp [hparts]) hfirst)
          (ih right (by simp [hparts]) hsecond)
    | comparison left operator right hnode hoperator hparts hcomparison =>
        rw [hcomparison] at hread
        obtain ⟨field, -, hread⟩ := Outcome.bind_eq_ok_iff.mp hread
        obtain ⟨operand, hoperand, rfl⟩ := Outcome.map_eq_ok_iff.mp hread
        exact .comparison field (isConnective_eq_false_iff.mp hoperator)
          (ih right (by simp [hparts]) hoperand)
    | dropped items hnode hitems hparts hdropped =>
        obtain rfl := Except.ok.inj (hdropped.symm.trans hread)
        exact .absent

/-- A written form is read as the filter it was written for. -/
theorem ofValue_written {filter : Filter} (hfilter : WellFormed connectives filter) :
    ofValue connectives (written connectives filter) = .ok filter := by
  induction hfilter with
  | absent => rfl
  | terminal hvalue => exact ofValue_of_no_sequence (Value.isSequence_eq_false_iff.mp hvalue)
  | negation _ ih =>
      rw [written, ofValue, ofItems, if_pos (by decide), ih]
      rfl
  | @connective name left right hname _ _ ihleft ihright =>
      rw [written]
      split
      · next hconnective =>
          rw [ofValue, ofItems, if_pos hconnective, ihleft, ihright]
          rfl
      · next hother =>
          -- Only the implied connective need not be one of the grammar.
          obtain rfl := hname.resolve_left (isConnective_text_iff.not.mp hother)
          rw [ofValue, ofItems, if_neg (by simp [isNegationMark]), ofValue, ofItems, ihleft,
            ihright]
          rfl
  | comparison field hoperator _ ih =>
      rw [written, ofValue, ofItems, isConnective_eq_false_iff.mpr hoperator, ih]
      rfl

/-- The filters that some raw filter is read as are the well-formed ones, and these are the
filters that are read back from their written form. -/
theorem ofValue_image (connectives : List String) (filter : Filter) :
    ((∃ raw, ofValue connectives raw = .ok filter) ↔ WellFormed connectives filter) ∧
      (WellFormed connectives filter ↔
        ofValue connectives (written connectives filter) = .ok filter) := by
  refine ⟨⟨?_, ?_⟩, ofValue_written, wellFormed_of_ofValue⟩
  · rintro ⟨raw, hraw⟩
    exact wellFormed_of_ofValue hraw
  · intro hfilter
    exact ⟨written connectives filter, ofValue_written hfilter⟩

/-- The negation mark as a terminal beside an implied connective that is no connective of the
grammar. -/
example :
    written ["or"] (.connective (.text "and") (.terminal (.text "!")) (.terminal (.int 1))) =
      .list [.list [.text "!"], .int 1] := rfl

end GridSource.Filter
