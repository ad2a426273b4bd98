import GridSource.Proofs.Url.Percent
import GridSource.Url.Form

/-!
# Undoing form encoding

Form encoding is percent encoding in which a space is safe and written as a plus
sign.  No piece of an encoded name or value is a separator, so splitting a query
at `&` and each piece at its first `=` finds the encoded texts again.
-/

namespace GridSource.Form

/-- The safe class once plus signs are read as spaces. -/
def isSafeOrSpace (character : Char) : Bool := isSafe character || character == ' '

def plusToSpace (character : Char) : Char := if character = '+' then ' ' else character

theorem isSafe_upperHexDigit {value : Nat} (hvalue : value < 16) :
    isSafe (Percent.upperHexDigit value) = true := by
  interval_cases value <;> rfl

theorem isSafe_of_mem_encodeChar {character piece : Char}
    (hpiece : piece ∈ Percent.encodeChar isSafe character) :
    isSafe piece = true ∨ piece = '%' := by
  rcases Percent.mem_encodeChar hpiece with hsafe | hpercent | ⟨value, hvalue, rfl⟩
  · exact .inl hsafe
  · exact .inr hpercent
  · exact .inl (isSafe_upperHexDigit hvalue)

/-- The characters encoded texts are made of. -/
def isEncoded (character : Char) : Bool :=
  isSafe character || character == '%' || character == '+'

theorem isEncoded_of_mem_encodeChar {character piece : Char}
    (hpiece : piece ∈ encodeChar character) : isEncoded piece = true := by
  rw [encodeChar] at hpiece
  split at hpiece
  · obtain rfl := List.mem_singleton.mp hpiece
    rfl
  · rcases isSafe_of_mem_encodeChar hpiece with hsafe | hpercent
    · simp [isEncoded, hsafe]
    · simp [isEncoded, hpercent]

theorem not_mem_encodeText {separator : Char} (hseparator : isEncoded separator = false)
    (content : String) : separator ∉ (encodeText content).toList := by
  intro hmem
  rw [encodeText, String.toList_ofList] at hmem
  obtain ⟨character, -, hpiece⟩ := List.mem_flatMap.mp hmem
  have hencoded := isEncoded_of_mem_encodeChar hpiece
  simp [hseparator] at hencoded

theorem map_plusToSpace_of_not_mem {characters : List Char} (hplus : '+' ∉ characters) :
    characters.map plusToSpace = characters := by
  have hsame : ∀ character ∈ characters, plusToSpace character = id character := by
    intro character hcharacter
    have hne : character ≠ '+' := by
      rintro rfl
      exact hplus hcharacter
    rw [plusToSpace, if_neg hne, id]
  rw [List.map_congr_left hsame, List.map_id]

theorem map_plusToSpace_encodeChar (character : Char) :
    (encodeChar character).map plusToSpace = Percent.encodeChar isSafeOrSpace character := by
  by_cases hspace : character = ' '
  · subst hspace
    rfl
  · have hsame :
        Percent.encodeChar isSafe character = Percent.encodeChar isSafeOrSpace character := by
      simp [Percent.encodeChar, isSafeOrSpace, hspace]
    have hplusSafe : isSafe '+' = false := rfl
    have hplus : '+' ∉ Percent.encodeChar isSafe character := by
      intro hpiece
      have hcases := isSafe_of_mem_encodeChar hpiece
      simp [hplusSafe] at hcases
    rw [encodeChar, if_neg hspace, map_plusToSpace_of_not_mem hplus, hsame]

theorem map_plusToSpace_encodeText (content : String) :
    (encodeText content).toList.map plusToSpace =
      content.toList.flatMap (Percent.encodeChar isSafeOrSpace) := by
  rw [encodeText, String.toList_ofList, List.map_flatMap]
  simp only [map_plusToSpace_encodeChar]

@[simp]
theorem decodeText?_encodeText (content : String) :
    decodeText? (encodeText content).toList = some content := by
  have hpercent : isSafeOrSpace '%' = false := rfl
  calc decodeText? (encodeText content).toList
      = Percent.decode? (String.ofList ((encodeText content).toList.map plusToSpace)) := rfl
    _ = Percent.decode? (Percent.encode isSafeOrSpace content) := by
        rw [map_plusToSpace_encodeText, Percent.encode]
    _ = some content := Percent.decode?_encode hpercent content

/-- A piece is split at its first equals sign. -/
theorem decodePair?_append {name : List Char} (hname : '=' ∉ name) (value : List Char) :
    decodePair? (name ++ '=' :: value) = do
      let name ← decodeText? name
      let value ← decodeText? value
      return (name, value) := by
  have hequals : ∀ character ∈ name, (character != '=') = true := by
    intro character hcharacter
    have hne : character ≠ '=' := by
      rintro rfl
      exact hname hcharacter
    simpa using hne
  rw [decodePair?, List.takeWhile_append_of_pos hequals, List.dropWhile_append_of_pos hequals]
  simp

theorem toList_encodePair (pair : String × String) :
    (encodePair pair).toList = (encodeText pair.1).toList ++ '=' :: (encodeText pair.2).toList := by
  simp [encodePair, String.toList_append]

@[simp]
theorem decodePair?_encodePair (pair : String × String) :
    decodePair? (encodePair pair).toList = some pair := by
  rw [toList_encodePair, decodePair?_append (not_mem_encodeText rfl pair.1),
    decodeText?_encodeText, decodeText?_encodeText]
  rfl

theorem splitAt_eq_splitOn (separator : Char) (characters : List Char) :
    splitAt separator characters = characters.splitOn separator := by
  induction characters with
  | nil => rfl
  | cons character rest ih =>
      rw [splitAt, List.splitOn_cons_eq_if_modifyHead, ih]
      by_cases hseparator : character = separator
      · simp [hseparator]
      · rw [if_neg hseparator, if_neg (by simpa using hseparator)]
        cases hrest : rest.splitOn separator with
        | nil => exact absurd hrest (List.splitOn_ne_nil separator rest)
        | cons piece others => rfl

theorem splitAt_ne_nil (separator : Char) (characters : List Char) :
    splitAt separator characters ≠ [] := by
  rw [splitAt_eq_splitOn]
  exact List.splitOn_ne_nil separator characters

theorem not_mem_of_mem_splitAt {separator : Char} {characters piece : List Char}
    (hpiece : piece ∈ splitAt separator characters) : separator ∉ piece := by
  induction characters generalizing piece with
  | nil =>
      obtain rfl := List.mem_singleton.mp hpiece
      exact List.not_mem_nil
  | cons character rest ih =>
      rw [splitAt] at hpiece
      split at hpiece
      · rcases List.mem_cons.mp hpiece with rfl | hrest
        · exact List.not_mem_nil
        · exact ih hrest
      · next hother =>
          cases hrest : splitAt separator rest with
          | nil => exact absurd hrest (splitAt_ne_nil separator rest)
          | cons first others =>
              rw [hrest] at hpiece ih
              rcases List.mem_cons.mp hpiece with rfl | hothers
              · have hfirst := ih (List.mem_cons_self ..)
                simp [hfirst, Ne.symm hother]
              · exact ih (List.mem_cons_of_mem _ hothers)

theorem not_mem_encodePair (pair : String × String) : '&' ∉ (encodePair pair).toList := by
  have hfirst : '&' ∉ (encodeText pair.1).toList := not_mem_encodeText rfl pair.1
  have hsecond : '&' ∉ (encodeText pair.2).toList := not_mem_encodeText rfl pair.2
  simp [toList_encodePair, hfirst, hsecond]

theorem splitAt_encode {pairs : List (String × String)} (hpairs : pairs ≠ []) :
    splitAt '&' (encode pairs).toList = pairs.map fun pair => (encodePair pair).toList := by
  have hnone : ∀ piece ∈ pairs.map (fun pair => (encodePair pair).toList), '&' ∉ piece := by
    intro piece hpiece
    obtain ⟨pair, -, rfl⟩ := List.mem_map.mp hpiece
    exact not_mem_encodePair pair
  rw [encode, String.toList_intercalate, splitAt_eq_splitOn, List.map_map]
  exact List.splitOn_intercalate '&' hnone (by simpa using hpairs)

theorem mapM_decodePair? (pairs : List (String × String)) :
    (pairs.map fun pair => (encodePair pair).toList).mapM decodePair? = some pairs := by
  induction pairs with
  | nil => rfl
  | cons pair pairs ih =>
      rw [List.map_cons, List.mapM_cons, decodePair?_encodePair, ih]
      rfl

/-- No written pair is empty. -/
theorem filter_encodePairs (pairs : List (String × String)) :
    (pairs.map fun pair => (encodePair pair).toList).filter (!·.isEmpty) =
      pairs.map fun pair => (encodePair pair).toList := by
  rw [List.filter_eq_self]
  intro piece hpiece
  obtain ⟨pair, -, rfl⟩ := List.mem_map.mp hpiece
  simp [toList_encodePair]

/-- A query decodes to the named values it was encoded from. -/
@[simp]
theorem decode?_encode (pairs : List (String × String)) :
    decode? (encode pairs) = some pairs := by
  by_cases hpairs : pairs = []
  · subst hpairs
    rfl
  · rw [decode?, splitAt_encode hpairs, filter_encodePairs, mapM_decodePair?]

end GridSource.Form
