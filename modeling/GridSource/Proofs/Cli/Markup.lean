import GridSource.Cli.Markup
import GridSource.Proofs.Outcome
import Mathlib.Data.List.TakeWhile

/-!
# Texts without markup

Every step of the reader either takes characters over as they are or passes markup, and then
fewer characters are left to show than were read.  So a text is shown as it is exactly when it
has no markup and all of its characters can be shown.
-/

namespace GridSource.Markup

/-- A backslash before a bracket goes away, and so does a tag. -/
def opensMarkup : List Char → Bool
  | '\\' :: '[' :: _ => true
  | '[' :: inside => (tag? inside).isSome
  | _ => false

def hasMarkup : List Char → Bool
  | [] => false
  | first :: rest => opensMarkup (first :: rest) || hasMarkup rest

/-- The text has no markup, and nothing in it moves the cursor. -/
def isVerbatim (content : String) : Bool :=
  !hasMarkup content.toList && content.toList.all isShown

def plainCharacters : Piece → List Char
  | .plain characters => characters
  | .tag _ => []

/-! ## What one step reads -/

theorem takeWhile_append_drop (p : Char → Bool) (characters : List Char) :
    characters.takeWhile p ++ characters.drop (characters.takeWhile p).length = characters := by
  rw [← List.prefix_iff_eq_append]
  exact List.takeWhile_prefix p

theorem eq_of_tag? {inside content after : List Char} (htag : tag? inside = some (content, after)) :
    inside = content ++ ']' :: after := by
  cases inside with
  | nil => contradiction
  | cons first rest =>
      simp only [tag?] at htag
      split at htag
      · split at htag
        · next closing hclosing =>
            obtain ⟨rfl, rfl⟩ := Prod.mk.inj (Option.some.inj htag)
            rw [List.cons_append, ← hclosing, takeWhile_append_drop]
        · contradiction
      · contradiction

theorem opensMarkup_of_ne {first : Char} (hslash : first ≠ '\\') (hbracket : first ≠ '[')
    (rest : List Char) : opensMarkup (first :: rest) = false := by
  rw [opensMarkup.eq_def]
  split <;> simp_all

theorem opensMarkup_slash {rest : List Char} (hrest : ∀ inside, rest ≠ '[' :: inside) :
    opensMarkup ('\\' :: rest) = false := by
  rw [opensMarkup.eq_def]
  split <;> simp_all

/-- Backslashes that stand before no bracket stand for themselves. -/
theorem hasMarkup_slashes {after : List Char} (hafter : ∀ inside, after ≠ '[' :: inside)
    (slashes : Nat) : hasMarkup (List.replicate slashes '\\' ++ after) = hasMarkup after := by
  induction slashes with
  | zero => rfl
  | succ slashes ih =>
      have hnext : ∀ inside, List.replicate slashes '\\' ++ after ≠ '[' :: inside := by
        cases slashes with
        | zero => exact hafter
        | succ slashes => simp [List.replicate_succ]
      rw [List.replicate_succ, List.cons_append, hasMarkup, opensMarkup_slash hnext, ih,
        Bool.false_or]

theorem hasMarkup_slashes_bracket {slashes : Nat} (hslashes : 0 < slashes) (inside : List Char) :
    hasMarkup (List.replicate slashes '\\' ++ '[' :: inside) = true := by
  induction slashes with
  | zero => contradiction
  | succ slashes ih =>
      rw [List.replicate_succ, List.cons_append, hasMarkup, Bool.or_eq_true]
      cases slashes with
      | zero => exact .inl rfl
      | succ slashes => exact .inr (ih slashes.succ_pos)

/-- A step takes characters over as they are, or passes markup and shows fewer characters than
it read. -/
inductive Reads : List Char → List Piece → List Char → Prop where
  | verbatim (read : List Char) {after : List Char} (hread : read ≠ [])
      (hmarkup : hasMarkup (read ++ after) = hasMarkup after) :
      Reads (read ++ after) [.plain read] after
  | markup {characters after : List Char} {pieces : List Piece}
      (hmarkup : hasMarkup characters = true)
      (hfewer : (pieces.flatMap plainCharacters).length + after.length < characters.length) :
      Reads characters pieces after

/-- Before a bracket that opens no tag one backslash goes away. -/
theorem reads_bracket {inside : List Char} (htag : tag? inside = none) (slashes : Nat) :
    Reads (List.replicate slashes '\\' ++ '[' :: inside)
      [.plain (List.replicate (slashes - 1) '\\' ++ ['['])] inside := by
  rcases Nat.eq_zero_or_pos slashes with rfl | hpositive
  · refine .verbatim ['['] (List.cons_ne_nil _ _) ?_
    have hopens : opensMarkup ('[' :: inside) = false := by
      rw [opensMarkup, htag]
      rfl
    rw [List.singleton_append, hasMarkup, hopens, Bool.false_or]
  · refine .markup (hasMarkup_slashes_bracket hpositive inside) ?_
    simp only [List.flatMap_cons, List.flatMap_nil, plainCharacters, List.length_append,
      List.length_replicate, List.length_cons, List.length_nil]
    omega

theorem reads_tag {inside content after : List Char} (htag : tag? inside = some (content, after))
    (slashes : Nat) :
    Reads (List.replicate slashes '\\' ++ '[' :: inside)
      [.plain (List.replicate (slashes / 2) '\\'),
        if slashes % 2 = 1 then .plain ('[' :: content ++ [']']) else .tag content] after := by
  have hinside := eq_of_tag? htag
  refine .markup ?_ ?_
  · rcases Nat.eq_zero_or_pos slashes with rfl | hpositive
    · have hopens : opensMarkup ('[' :: inside) = true := by
        rw [opensMarkup, htag]
        rfl
      rw [List.replicate_zero, List.nil_append, hasMarkup, hopens, Bool.true_or]
    · exact hasMarkup_slashes_bracket hpositive inside
  · subst hinside
    split <;>
    · simp only [List.flatMap_cons, List.flatMap_nil, plainCharacters, List.length_append,
        List.length_replicate, List.length_cons, List.length_nil]
      omega

theorem exists_reads (steps : Nat) (first : Char) (rest : List Char) :
    ∃ pieces after, piecesWithin (steps + 1) (first :: rest) = pieces ++ piecesWithin steps after ∧
      Reads (first :: rest) pieces after := by
  obtain ⟨slashes, hslashes⟩ : ∃ slashes,
      slashes = ((first :: rest).takeWhile (· == '\\')).length := ⟨_, rfl⟩
  have hreplicate : (first :: rest).takeWhile (· == '\\') = List.replicate slashes '\\' := by
    rw [List.eq_replicate_iff]
    exact ⟨hslashes.symm, fun character hcharacter => by
      simpa using List.mem_takeWhile_imp hcharacter⟩
  have hsplit := takeWhile_append_drop (· == '\\') (first :: rest)
  rw [← hslashes, hreplicate] at hsplit
  rw [piecesWithin]
  simp only [← hslashes]
  split
  · next inside hinside =>
      rw [hinside] at hsplit
      cases htag : tag? inside with
      | none => exact ⟨_, inside, rfl, hsplit ▸ reads_bracket htag slashes⟩
      | some tagged => exact ⟨[_, _], tagged.2, rfl, hsplit ▸ reads_tag htag slashes⟩
  · next hafter =>
      split
      · next hzero =>
          subst hzero
          refine ⟨_, rest, rfl, .verbatim [first] (List.cons_ne_nil _ _) ?_⟩
          have hslash : first ≠ '\\' := by
            rintro rfl
            simp at hslashes
          have hbracket : first ≠ '[' := fun hsame => hafter rest (by rw [hsame, List.drop_zero])
          rw [List.singleton_append, hasMarkup, opensMarkup_of_ne hslash hbracket, Bool.false_or]
      · next hsome =>
          refine ⟨[.plain (List.replicate slashes '\\')], _, rfl, ?_⟩
          have hread : List.replicate slashes '\\' ≠ [] := by simpa using hsome
          have hreads := Reads.verbatim _ hread (hasMarkup_slashes hafter slashes)
          rwa [hsplit] at hreads

/-! ## What is shown -/

theorem plainText_append {styles : List String} {first rest : List Piece} {out : List Char}
    (hout : plainText styles (first ++ rest) = .ok out) :
    ∃ inner others, plainText inner rest = .ok others ∧
      out = first.flatMap plainCharacters ++ others := by
  induction first generalizing styles out with
  | nil => exact ⟨styles, out, hout, rfl⟩
  | cons piece first ih =>
      cases piece with
      | plain characters =>
          rw [List.cons_append, plainText, Outcome.map_eq_ok_iff] at hout
          obtain ⟨shown, hshown, rfl⟩ := hout
          obtain ⟨inner, others, hothers, rfl⟩ := ih hshown
          exact ⟨inner, others, hothers, by simp [plainCharacters]⟩
      | tag content =>
          rw [List.cons_append, plainText, Outcome.bind_eq_ok_iff] at hout
          obtain ⟨opened, -, hout⟩ := hout
          exact ih hout

/-- A text without markup is shown as it is, and one with markup in fewer characters. -/
theorem plainText_piecesWithin {steps : Nat} {characters : List Char}
    (hsteps : characters.length < steps) :
    (hasMarkup characters = false →
      ∀ styles, plainText styles (piecesWithin steps characters) = .ok characters) ∧
    (hasMarkup characters = true → ∀ styles out,
      plainText styles (piecesWithin steps characters) = .ok out →
        out.length < characters.length) := by
  induction steps generalizing characters with
  | zero => contradiction
  | succ steps ih =>
      cases characters with
      | nil => exact ⟨fun _ _ => rfl, fun hmarkup => nomatch hmarkup⟩
      | cons first rest =>
          obtain ⟨pieces, after, hpieces, hreads⟩ := exists_reads steps first rest
          rw [hpieces]
          generalize first :: rest = characters at hreads hsteps
          cases hreads with
          | verbatim read hread hmarkup =>
              have hlength := List.length_pos_of_ne_nil hread
              rw [List.length_append] at hsteps ⊢
              obtain ⟨hplain, hfewer⟩ := @ih after (by omega)
              rw [hmarkup]
              refine ⟨fun hnone styles => ?_, fun hsome styles out hout => ?_⟩
              · rw [List.singleton_append, plainText, hplain hnone]
                rfl
              · obtain ⟨inner, others, hothers, rfl⟩ := plainText_append hout
                have hshown := hfewer hsome inner others hothers
                simp only [List.flatMap_cons, List.flatMap_nil, plainCharacters,
                  List.length_append, List.append_nil]
                omega
          | markup hmarkup hfewer =>
              obtain ⟨hplain, hless⟩ := @ih after (by omega)
              refine ⟨fun hnone => Bool.noConfusion (hmarkup.symm.trans hnone),
                fun _ styles out hout => ?_⟩
              obtain ⟨inner, others, hothers, rfl⟩ := plainText_append hout
              have hafter : others.length ≤ after.length := by
                cases hrest : hasMarkup after with
                | true => exact (hless hrest inner others hothers).le
                | false =>
                    rw [hplain hrest inner] at hothers
                    rw [Except.ok.inj hothers]
              rw [List.length_append]
              omega

theorem shown_eq_self_iff {content : String} :
    shown content = .ok content ↔ isVerbatim content = true := by
  have hlength := content.toList.length.lt_succ_self
  obtain ⟨hplain, hfewer⟩ := plainText_piecesWithin hlength
  rw [shown, pieces, isVerbatim, Bool.and_eq_true, Bool.not_eq_true', List.all_eq_true]
  constructor
  · intro hshown
    obtain ⟨out, hout, hsame⟩ := Outcome.map_eq_ok_iff.mp hshown
    have hfilter : out.filter isShown = content.toList := by rw [← hsame, String.toList_ofList]
    have hkept := List.length_filter_le isShown out
    rw [hfilter] at hkept
    cases hmarkup : hasMarkup content.toList with
    | true => exact absurd (hfewer hmarkup [] out hout) (by omega)
    | false =>
        obtain rfl := Except.ok.inj ((hplain hmarkup []).symm.trans hout)
        exact ⟨rfl, List.filter_eq_self.mp hfilter⟩
  · rintro ⟨hmarkup, hall⟩
    rw [hplain hmarkup, Except.map, List.filter_eq_self.mpr hall, String.ofList_toList]

end GridSource.Markup
