import GridSource.Proofs.Url.Component
import Mathlib.Data.List.DropRight

/-!
# Paths

Dot segments are removed from the path of an address by the rules of RFC 3986, 5.2.4.  They
take the segments of a path one by one, so a path leads to a directory, whatever comes after
it, and a segment after it is added to the directory, names the directory itself when it is a
dot, and names the parent of the directory when it is two dots.
-/

namespace GridSource.Address

/-! ## Dot segments -/

/-- The output without its last segment and the slash before it. -/
def withoutLastSegment (output : List Char) : List Char :=
  (output.rdropWhile (· != '/')).dropLast

/-- Moves the input to the output without its dot segments.  The cases are the rules of
RFC 3986, 5.2.4, in their order; the last one moves one segment. -/
def moveSegments (output : List Char) : List Char → List Char
  | '.' :: '.' :: '/' :: rest => moveSegments output rest
  | '.' :: '/' :: rest => moveSegments output rest
  | '/' :: '.' :: '/' :: rest => moveSegments output ('/' :: rest)
  | ['/', '.'] => moveSegments output ['/']
  | '/' :: '.' :: '.' :: '/' :: rest => moveSegments (withoutLastSegment output) ('/' :: rest)
  | ['/', '.', '.'] => moveSegments (withoutLastSegment output) ['/']
  | ['.'] => output
  | ['.', '.'] => output
  | [] => output
  | first :: rest =>
      moveSegments (output ++ first :: rest.takeWhile (· != '/')) (rest.dropWhile (· != '/'))
termination_by input => input.length
decreasing_by
  all_goals simp only [List.length_cons, List.length_nil]
  all_goals first
    | omega
    | exact Nat.lt_succ_of_le (List.dropWhile_sublist _).length_le

def removeDotSegments (path : List Char) : List Char := moveSegments [] path

/-- What a segment makes of the output. -/
def enter (output segment : List Char) : List Char :=
  if segment = ['.'] then output
  else if segment = ['.', '.'] then withoutLastSegment output
  else output ++ '/' :: segment

/-- A path that is empty or starts with a slash. -/
def IsRooted (path : List Char) : Prop := path = [] ∨ path.head? = some '/'

theorem isRooted_cons (rest : List Char) : IsRooted ('/' :: rest) := .inr rfl

theorem IsRooted.append {path : List Char} (hpath : IsRooted path) {rest : List Char}
    (hrest : IsRooted rest) : IsRooted (path ++ rest) := by
  rcases hpath with rfl | hhead
  · exact hrest
  · obtain ⟨others, rfl⟩ := List.head?_eq_some_iff.mp hhead
    exact .inr rfl

theorem IsRooted.of_append {path rest : List Char} (hrooted : IsRooted (path ++ rest)) :
    IsRooted path := by
  cases path with
  | nil => exact .inl rfl
  | cons first others => exact .inr (hrooted.resolve_left (List.cons_ne_nil _ _))

/-- A segment ends where a slash is. -/
theorem split_segment {segment rest : List Char} (hslash : '/' ∉ segment) (hrest : IsRooted rest) :
    (segment ++ rest).takeWhile (· != '/') = segment ∧
      (segment ++ rest).dropWhile (· != '/') = rest := by
  have hinside : ∀ character ∈ segment, (character != '/') = true := by
    intro character hcharacter
    rw [bne_iff_ne]
    rintro rfl
    exact hslash hcharacter
  rw [List.takeWhile_append_of_pos hinside, List.dropWhile_append_of_pos hinside]
  rcases hrest with rfl | hhead
  · simp
  · obtain ⟨others, rfl⟩ := List.head?_eq_some_iff.mp hhead
    simp

variable (output : List Char) {segment rest : List Char}

/-- A segment that is no dots is moved as it is. -/
theorem moveSegments_of_ne (hslash : '/' ∉ segment) (hdot : segment ≠ ['.'])
    (hdots : segment ≠ ['.', '.']) (hrest : IsRooted rest) :
    moveSegments output ('/' :: (segment ++ rest)) =
      moveSegments (output ++ '/' :: segment) rest := by
  obtain ⟨htake, hdrop⟩ := split_segment hslash hrest
  rw [moveSegments.eq_10, htake, hdrop]
  all_goals try (intros; contradiction)
  -- The input starts with a dot segment only if the segment is one.
  · intro others _ hdotted
    rw [hdotted] at htake
    exact hdot htake.symm
  · intro _ hdotted
    rw [hdotted] at htake
    exact hdot htake.symm
  · intro others _ hdotted
    rw [hdotted] at htake
    exact hdots htake.symm
  · intro _ hdotted
    rw [hdotted] at htake
    exact hdots htake.symm

@[simp]
theorem moveSegments_slash : moveSegments output ['/'] = output ++ ['/'] := by
  have hmove : moveSegments output ('/' :: ([] ++ [])) = moveSegments (output ++ ['/']) [] :=
    moveSegments_of_ne output List.not_mem_nil (by decide) (by decide) (.inl rfl)
  exact hmove.trans (moveSegments.eq_9 _)

/-- A segment is entered when another one follows. -/
theorem moveSegments_segment (hslash : '/' ∉ segment) (rest : List Char) :
    moveSegments output ('/' :: (segment ++ '/' :: rest)) =
      moveSegments (enter output segment) ('/' :: rest) := by
  rcases eq_or_ne segment ['.'] with rfl | hdot
  · exact moveSegments.eq_3 output rest
  rcases eq_or_ne segment ['.', '.'] with rfl | hdots
  · exact moveSegments.eq_5 output rest
  rw [enter, if_neg hdot, if_neg hdots,
    moveSegments_of_ne output hslash hdot hdots (isRooted_cons rest)]

/-- What stands in the output is empty or starts with a slash. -/
theorem isRooted_enter {output : List Char} (houtput : IsRooted output) (segment : List Char) :
    IsRooted (enter output segment) := by
  rw [enter]
  split
  · exact houtput
  · split
    · have hprefix : withoutLastSegment output <+: output :=
        (List.dropLast_prefix _).trans (List.rdropWhile_prefix _ _)
      obtain ⟨dropped, hdropped⟩ := hprefix
      exact (hdropped ▸ houtput).of_append
    · exact houtput.append (isRooted_cons segment)

/-- The first segment of a path and what comes after it. -/
theorem exists_segment (path : List Char) :
    ∃ segment after, path = segment ++ after ∧ '/' ∉ segment ∧ IsRooted after := by
  refine ⟨path.takeWhile (· != '/'), path.dropWhile (· != '/'),
    List.takeWhile_append_dropWhile.symm,
    fun hmem => by simpa using List.mem_takeWhile_imp hmem, ?_⟩
  cases hafter : path.dropWhile (· != '/') with
  | nil => exact .inl rfl
  | cons first after =>
      have hfirst := List.head?_dropWhile_not (· != '/') path
      rw [hafter] at hfirst
      right
      simpa using hfirst

/-- One of the segments of the path is a dot or two dots. -/
def HasDotSegment (path : List Char) : Prop :=
  ∃ before segment after, segment ∈ [['.'], ['.', '.']] ∧ IsRooted after ∧
    path = before ++ '/' :: (segment ++ after)

/-- A path leads to a directory, which does not depend on what comes after it. -/
theorem exists_directory {path : List Char} (hpath : IsRooted path) {output : List Char}
    (houtput : IsRooted output) :
    ∃ directory, IsRooted directory ∧ (¬ HasDotSegment path → directory = output ++ path) ∧
      ∀ rest, moveSegments output (path ++ '/' :: rest) = moveSegments directory ('/' :: rest) := by
  -- One segment of the path is taken at a time.
  induction hlength : path.length using Nat.strong_induction_on generalizing path output with
  | _ length ih =>
    rcases hpath with rfl | hhead
    · exact ⟨output, houtput, fun _ => (List.append_nil _).symm, fun rest => rfl⟩
    obtain ⟨others, rfl⟩ := List.head?_eq_some_iff.mp hhead
    obtain ⟨segment, after, rfl, hslash, hafter⟩ := exists_segment others
    have hshorter : after.length < length := by
      simp only [List.length_cons, List.length_append] at hlength
      omega
    obtain ⟨directory, hdirectory, hplain, hmove⟩ :=
      ih _ hshorter hafter (isRooted_enter houtput segment) rfl
    refine ⟨directory, hdirectory, fun hnone => ?_, fun rest => ?_⟩
    · have hsegment : segment ∉ [['.'], ['.', '.']] :=
        fun hdots => hnone ⟨[], segment, after, hdots, hafter, rfl⟩
      simp only [List.mem_cons, List.not_mem_nil, or_false, not_or] at hsegment
      have hlater : ¬ HasDotSegment after := by
        rintro ⟨before, dots, later, hdots, hrooted, rfl⟩
        exact hnone ⟨'/' :: segment ++ before, dots, later, hdots, hrooted, by simp⟩
      rw [hplain hlater, enter, if_neg hsegment.1, if_neg hsegment.2]
      simp
    · obtain ⟨next, hnext⟩ : ∃ next, after ++ '/' :: rest = '/' :: next := by
        rcases hafter with rfl | hstart
        · exact ⟨rest, rfl⟩
        · obtain ⟨later, rfl⟩ := List.head?_eq_some_iff.mp hstart
          exact ⟨later ++ '/' :: rest, rfl⟩
      rw [← hmove rest, List.cons_append, List.append_assoc, hnext,
        moveSegments_segment output hslash next]

theorem withoutLastSegment_append (before : List Char) {last : List Char} (hlast : '/' ∉ last) :
    withoutLastSegment (before ++ '/' :: last) = before := by
  have hinside : ∀ character ∈ last.reverse, (character != '/') = true := by
    intro character hcharacter
    rw [bne_iff_ne]
    rintro rfl
    exact hlast (List.mem_reverse.mp hcharacter)
  rw [withoutLastSegment, List.rdropWhile, List.reverse_append, List.reverse_cons,
    List.append_assoc, List.dropWhile_append_of_pos hinside]
  simp

/-- Where the address of a collection leads with one more segment.  Nothing and a dot lead to
the collection itself, two dots to its parent, and every other segment to a record. -/
inductive Arrives (collection : List Char) : List Char → List Char → Prop where
  | same {segment : List Char} (hsegment : segment ∈ [[], ['.']]) :
      Arrives collection segment collection
  | root (hroot : collection = ['/']) : Arrives collection ['.', '.'] collection
  | parent {before last : List Char} (hlast : '/' ∉ last)
      (hcollection : collection = before ++ '/' :: last ++ ['/']) :
      Arrives collection ['.', '.'] (before ++ ['/'])
  | record {segment : List Char} (hsegment : segment ∉ [[], ['.'], ['.', '.']]) :
      Arrives collection segment (collection ++ segment)

theorem exists_last {path : List Char} (hpath : IsRooted path) (hne : path ≠ []) :
    ∃ before last, '/' ∉ last ∧ path = before ++ '/' :: last := by
  have hmem : '/' ∈ path.reverse :=
    List.mem_reverse.mpr (List.mem_of_mem_head? (hpath.resolve_left hne))
  obtain ⟨last, before, hreverse, hlast⟩ := List.eq_append_cons_of_mem hmem
  refine ⟨before.reverse, last.reverse, by simpa using hlast, ?_⟩
  rw [← List.reverse_reverse path, hreverse]
  simp

theorem arrives {path segment : List Char} (hpath : IsRooted path) (hslash : '/' ∉ segment) :
    Arrives (removeDotSegments (path ++ ['/'])) segment
      (removeDotSegments (path ++ '/' :: segment)) := by
  obtain ⟨directory, hdirectory, -, hmove⟩ := exists_directory hpath (.inl rfl : IsRooted [])
  rw [removeDotSegments, removeDotSegments, hmove, hmove, moveSegments_slash]
  rcases eq_or_ne segment [] with rfl | hnil
  · rw [moveSegments_slash]
    exact .same (by decide)
  rcases eq_or_ne segment ['.'] with rfl | hdot
  · rw [moveSegments.eq_4, moveSegments_slash]
    exact .same (by decide)
  rcases eq_or_ne segment ['.', '.'] with rfl | hdots
  · rw [moveSegments.eq_6, moveSegments_slash]
    rcases eq_or_ne directory [] with rfl | hne
    · exact .root rfl
    · obtain ⟨before, last, hlast, rfl⟩ := exists_last hdirectory hne
      rw [withoutLastSegment_append before hlast]
      exact .parent hlast rfl
  · have hrecord : moveSegments directory ('/' :: segment) = directory ++ ['/'] ++ segment := by
      have hmoved := moveSegments_of_ne directory hslash hdot hdots (.inl rfl : IsRooted [])
      rw [List.append_nil, moveSegments.eq_9] at hmoved
      simpa using hmoved
    rw [hrecord]
    exact .record (by simp [hnil, hdot, hdots])

/-- One segment that is not empty comes after the address of the collection. -/
def IsRecordOf (collection path : List Char) : Prop :=
  ∃ segment, segment ≠ [] ∧ '/' ∉ segment ∧ path = collection ++ segment

theorem IsRecordOf.length_lt {collection path : List Char} (hrecord : IsRecordOf collection path) :
    collection.length < path.length := by
  obtain ⟨segment, hsegment, -, rfl⟩ := hrecord
  rw [List.length_append]
  exact Nat.lt_add_of_pos_right (List.length_pos_iff.mpr hsegment)

theorem Arrives.isRecordOf_iff {collection segment path : List Char}
    (harrives : Arrives collection segment path) (hslash : '/' ∉ segment) :
    IsRecordOf collection path ↔ segment ∉ [[], ['.'], ['.', '.']] := by
  have hself : ¬ IsRecordOf collection collection := fun hrecord => hrecord.length_lt.false
  cases harrives with
  | same hsegment =>
      refine iff_of_false hself (not_not_intro ?_)
      simp only [List.mem_cons, List.not_mem_nil, or_false] at hsegment ⊢
      exact hsegment.imp_right .inl
  | root => exact iff_of_false hself (by simp)
  | @parent before last hlast hcollection =>
      refine iff_of_false (fun hrecord => ?_) (by simp)
      have hlonger := hrecord.length_lt
      simp only [hcollection, List.length_append, List.length_cons] at hlonger
      omega
  | record hsegment =>
      have hne : segment ≠ [] := fun hnil => hsegment (hnil ▸ List.mem_cons_self)
      exact iff_of_true ⟨segment, hne, hslash, rfl⟩ hsegment

/-! ## Trailing slashes -/

theorem exists_trailingSlashes (characters : List Char) :
    ∃ count, characters = characters.rdropWhile (· == '/') ++ List.replicate count '/' := by
  have hslashes : ∀ character ∈ characters.rtakeWhile (· == '/'), character = '/' :=
    fun character hcharacter => by simpa using List.mem_rtakeWhile_imp hcharacter
  refine ⟨(characters.rtakeWhile (· == '/')).length, ?_⟩
  rw [← List.eq_replicate_of_mem hslashes, List.rdropWhile_append_rtakeWhile]

theorem rdropWhile_append {p : Char → Bool} {before : List Char}
    (hbefore : ∀ last ∈ before.getLast?, p last = false) (after : List Char) :
    (before ++ after).rdropWhile p = before ++ after.rdropWhile p := by
  induction after using List.reverseRecOn with
  | nil =>
      rw [List.append_nil, List.rdropWhile_nil, List.append_nil, List.rdropWhile_eq_self_iff]
      intro hne
      rw [hbefore _ (List.getLast_mem_getLast? hne)]
      exact Bool.false_ne_true
  | append_singleton after last ih =>
      rw [← List.append_assoc, List.rdropWhile_concat, List.rdropWhile_concat, ih]
      split
      · rfl
      · rw [List.append_assoc]

end GridSource.Address
