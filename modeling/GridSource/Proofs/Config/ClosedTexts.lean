import GridSource.Proofs.Config.Placeholders
import GridSource.Proofs.Json.Scalars

/-!
# Well-nested and closed texts

A text is well nested when it is made of plain pieces and of placeholders whose defaults are well
nested again.  Scanning knows no nesting: a placeholder ends at the first closing brace, and what
follows that brace in a nested default is no longer well nested.  It is still closed, which means
that every dollar sign opens a placeholder that some later brace closes.  Closed texts stay closed
when they are joined, cut from the left, or shown inside a list or an object.
-/

namespace GridSource

namespace Placeholder

/-- A piece of text without the characters that placeholders are made of. -/
def IsPlain (characters : List Char) : Prop :=
  ∀ character ∈ characters, character ≠ '$' ∧ character ≠ '\x7b' ∧ character ≠ '\x7d'

instance (characters : List Char) : Decidable (IsPlain characters) :=
  List.decidableBAll _ characters

structure IsName (name : List Char) : Prop where
  nonempty : name ≠ []
  plain : IsPlain name
  colon : ':' ∉ name

inductive WellNested : List Char → Prop where
  | plain {piece : List Char} (hpiece : IsPlain piece) : WellNested piece
  | append {left right : List Char} (hleft : WellNested left) (hright : WellNested right) :
      WellNested (left ++ right)
  | named {name : List Char} (hname : IsName name) : WellNested (opening ++ name ++ ['\x7d'])
  | defaulted {name default : List Char} (hname : IsName name) (hdefault : WellNested default) :
      WellNested (opening ++ name ++ ':' :: default ++ ['\x7d'])

/-- Every dollar sign opens a placeholder, of at least one character, that is closed. -/
inductive Closed : List Char → Prop where
  | nil : Closed []
  | character {first : Char} {rest : List Char} (hfirst : first ≠ '$') (hrest : Closed rest) :
      Closed (first :: rest)
  | placeholder {first : Char} {rest : List Char} (hfirst : first ≠ '\x7d')
      (hclosing : '\x7d' ∈ rest) (hrest : Closed (first :: rest)) :
      Closed ('$' :: '\x7b' :: first :: rest)

/-! ## Closed texts -/

theorem Closed.of_not_mem {characters : List Char} (hdollar : '$' ∉ characters) :
    Closed characters := by
  induction characters with
  | nil => exact .nil
  | cons first rest ih =>
      rw [List.mem_cons, not_or] at hdollar
      exact .character (Ne.symm hdollar.1) (ih hdollar.2)

theorem Closed.append {left right : List Char} (hleft : Closed left) (hright : Closed right) :
    Closed (left ++ right) := by
  induction hleft with
  | nil => exact hright
  | character hfirst _ ih => exact .character hfirst ih
  | placeholder hfirst hclosing _ ih =>
      exact .placeholder hfirst (List.mem_append_left right hclosing) ih

theorem Closed.tail {first : Char} {rest : List Char} (hclosed : Closed (first :: rest)) :
    Closed rest := by
  cases hclosed with
  | character _ hrest => exact hrest
  | placeholder _ _ hrest => exact .character (by decide) hrest

/-- What is left of a closed text is closed. -/
theorem Closed.of_append {left right : List Char} (hclosed : Closed (left ++ right)) :
    Closed right := by
  induction left with
  | nil => exact hclosed
  | cons first rest ih => exact ih hclosed.tail

theorem Closed.intercalate {delimiter : List Char} (hdelimiter : Closed delimiter)
    {texts : List (List Char)} (htexts : ∀ text ∈ texts, Closed text) :
    Closed (delimiter.intercalate texts) := by
  induction texts with
  | nil => exact .nil
  | cons text rest ih =>
      rw [List.forall_mem_cons] at htexts
      cases rest with
      | nil =>
          rw [List.intercalate_singleton]
          exact htexts.1
      | cons next others =>
          rw [List.intercalate_cons_cons]
          exact (htexts.1.append hdelimiter).append (ih htexts.2)

theorem IsPlain.dollar_not_mem {characters : List Char} (hplain : IsPlain characters) :
    '$' ∉ characters :=
  fun hdollar => (hplain '$' hdollar).1 rfl

/-- A name and what follows it make a placeholder. -/
theorem IsName.closed {name rest : List Char} (hname : IsName name) (hrest : Closed rest) :
    Closed (opening ++ name ++ rest ++ ['\x7d']) := by
  obtain ⟨first, others, rfl⟩ := List.exists_cons_of_ne_nil hname.nonempty
  have hinside : Closed (first :: others ++ rest ++ ['\x7d']) :=
    ((Closed.of_not_mem hname.plain.dollar_not_mem).append hrest).append
      (.of_not_mem (by decide))
  exact .placeholder (hname.plain first List.mem_cons_self).2.2 (by simp) hinside

theorem WellNested.closed {characters : List Char} (hnested : WellNested characters) :
    Closed characters := by
  induction hnested with
  | plain hpiece => exact .of_not_mem hpiece.dollar_not_mem
  | append _ _ ihleft ihright => exact ihleft.append ihright
  | named hname =>
      have hclosed := hname.closed .nil
      rwa [List.append_nil] at hclosed
  | @defaulted name default hname _ ih =>
      have hcolon : Closed (':' :: default) := .character (by decide) ih
      exact hname.closed hcolon

/-! ## Dollar signs and marks -/

theorem marks_cons {first : Char} {rest : List Char} (hrest : marks rest = true) :
    marks (first :: rest) = true := by
  unfold marks
  split
  · rfl
  · next hcons =>
      obtain ⟨-, rfl⟩ := List.cons.inj hcons
      exact hrest
  · contradiction

theorem marks_append_right (left : List Char) {right : List Char} (hright : marks right = true) :
    marks (left ++ right) = true := by
  induction left with
  | nil => exact hright
  | cons first rest ih => exact marks_cons ih

theorem marks_append_left {left : List Char} (hleft : marks left = true) (right : List Char) :
    marks (left ++ right) = true := by
  fun_induction marks left with
  | case1 rest => rfl
  | case2 first rest hnone ih => exact marks_cons (ih hleft)
  | case3 => contradiction

/-- In a closed text a dollar sign comes with the brace after it, unless the text is cut between
the two. -/
theorem Closed.marks_iff {text after : List Char} (hclosed : Closed (text ++ after))
    (hafter : ∀ rest, after ≠ '\x7b' :: rest) : marks text = true ↔ '$' ∈ text := by
  refine ⟨mem_of_marks, fun hdollar => ?_⟩
  induction text with
  | nil => contradiction
  | cons first rest ih =>
      rcases List.mem_cons.mp hdollar with rfl | hdollar
      · cases hcut : rest ++ after with
        | nil =>
            rw [List.cons_append, hcut] at hclosed
            cases hclosed with
            | character hfirst => exact absurd rfl hfirst
        | cons second others =>
            rw [List.cons_append, hcut] at hclosed
            cases hclosed with
            | character hfirst => exact absurd rfl hfirst
            | placeholder =>
                cases rest with
                | nil => exact absurd hcut (hafter _)
                | cons brace rest =>
                    obtain ⟨rfl, -⟩ := List.cons.inj hcut
                    rfl
      · exact marks_cons (ih hclosed.tail hdollar)

theorem Closed.dollar_not_mem {content : String} (hclosed : Closed content.toList)
    (hunmarked : isMarked content = false) : '$' ∉ content.toList := by
  have hwhole : Closed (content.toList ++ []) := by rwa [List.append_nil]
  rw [← hwhole.marks_iff (by simp), Bool.not_eq_true]
  exact hunmarked

/-! ## Segments of closed texts -/

/-- A segment as scanning a closed text gives it: a character that is no dollar sign, or what
stands before the first closing brace of a closed text. -/
inductive Segment.IsCut : Segment → Prop where
  | character {value : Char} (hvalue : value ≠ '$') : IsCut (.character value)
  | placeholder {content after : List Char} (hclosed : Closed (content ++ '\x7d' :: after)) :
      IsCut (.placeholder content)

/-- What scanning has to know of an open placeholder: it will be closed, and not at once. -/
structure Opened (read rest : List Char) : Prop where
  closed : Closed (read.reverse ++ rest)
  closing : '\x7d' ∈ rest
  nonempty : read = [] → ∀ after, rest ≠ '\x7d' :: after

theorem isCut_of_mem_scan {state : Option (List Char)} {characters : List Char}
    (hclosed : state = none → Closed characters)
    (hopened : ∀ read, state = some read → Opened read characters) :
    ∀ segment ∈ scan state characters, segment.IsCut := by
  fun_induction scan state characters with
  | case1 => simp
  | case2 read => exact absurd (hopened read rfl).closing List.not_mem_nil
  | case3 rest ih =>
      cases hclosed rfl with
      | character hfirst => exact absurd rfl hfirst
      | @placeholder first rest hfirst hclosing hrest =>
          refine ih nofun fun read hread => ?_
          obtain rfl := Option.some.inj hread
          refine ⟨hrest, List.mem_cons_of_mem _ hclosing, fun _ after hafter => ?_⟩
          exact hfirst (List.cons.inj hafter).1
  | case4 first rest hnone ih =>
      refine List.forall_mem_cons.mpr ⟨?_, ih (fun _ => (hclosed rfl).tail) nofun⟩
      cases hclosed rfl with
      | character hfirst => exact .character hfirst
      | placeholder => exact absurd rfl (hnone _ rfl)
  | case5 rest ih => exact absurd rfl ((hopened [] rfl).nonempty rfl rest)
  | case6 read rest hread ih =>
      have hopen := hopened read rfl
      refine List.forall_mem_cons.mpr ⟨.placeholder hopen.closed, ih (fun _ => ?_) nofun⟩
      exact hopen.closed.of_append.tail
  | case7 read first rest hempty hfirst ih =>
      have hopen := hopened read rfl
      refine ih nofun fun read' hread => ?_
      obtain rfl := Option.some.inj hread
      constructor
      · rw [List.reverse_cons, List.append_assoc]
        exact hopen.closed
      · refine (List.mem_cons.mp hopen.closing).resolve_left fun hbrace => ?_
        exact hfirst hbrace.symm
      · intro hnil
        contradiction

theorem isCut_of_mem_segments {content : String} (hclosed : Closed content.toList) :
    ∀ segment ∈ segments content, segment.IsCut :=
  isCut_of_mem_scan (fun _ => hclosed) nofun

/-- A default is the end of what stands in its placeholder. -/
theorem exists_append_of_split {content : List Char} {name default : String}
    (hsplit : split content = (name, some default)) :
    ∃ before, content = before ++ default.toList := by
  have hdefault : ((content.dropWhile (· != ':')).drop 1) = default.toList := by
    rw [split, Prod.mk.injEq] at hsplit
    obtain ⟨-, hdefault⟩ := hsplit
    split at hdefault
    · contradiction
    · rw [← Option.some.inj hdefault, String.toList_ofList]
  refine ⟨content.takeWhile (· != ':') ++ (content.dropWhile (· != ':')).take 1, ?_⟩
  rw [← hdefault, List.append_assoc, List.take_append_drop, List.takeWhile_append_dropWhile]

/-- A dollar sign in the default of a placeholder opens a placeholder there. -/
theorem marks_default_iff {content : List Char} {name default : String}
    (hcut : Segment.IsCut (.placeholder content)) (hsplit : split content = (name, some default)) :
    isMarked default = true ↔ '$' ∈ default.toList := by
  obtain ⟨before, rfl⟩ := exists_append_of_split hsplit
  cases hcut with
  | @placeholder _ after hclosed =>
      rw [List.append_assoc] at hclosed
      apply hclosed.of_append.marks_iff
      intro rest hrest
      exact absurd (List.cons.inj hrest).1 (by decide)

end Placeholder

end GridSource
