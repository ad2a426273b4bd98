import GridSource.Proofs.Outcome
import GridSource.Proofs.Url.Component
import GridSource.Proofs.Url.Form
import GridSource.Url.Address
import Mathlib.Data.List.TakeWhile

/-!
# The query of an address

The query of an address stands between its first question mark and its first number sign.  A
query that is written behind an address is the query of the whole unless the address has a
question mark or a number sign of its own.  Behind a number sign it is no query, and behind a
question mark it runs into the query that is already there: the second question mark becomes a
part of the last value before it, or of the first name after it.
-/

namespace GridSource

namespace Address

/-- What stands between the first question mark and the first number sign. -/
def queryPart (content : String) : String :=
  String.ofList ((splitFirst '?' (splitFirst '#' content.toList).1).2.getD [])

theorem splitFirst_of_not_mem {separator : Char} {characters : List Char}
    (hseparator : separator ∉ characters) :
    splitFirst separator characters = (characters, none) := by
  have hdrop : characters.dropWhile (· != separator) = [] := by
    rw [List.dropWhile_eq_nil_iff]
    intro character hcharacter
    rw [bne_iff_ne]
    rintro rfl
    exact hseparator hcharacter
  rw [splitFirst, hdrop]

theorem splitFirst_append {separator : Char} {before : List Char} (hbefore : separator ∉ before)
    (after : List Char) :
    splitFirst separator (before ++ separator :: after) = (before, some after) := by
  have hother : ∀ character ∈ before, (character != separator) = true := by
    intro character hcharacter
    rw [bne_iff_ne]
    rintro rfl
    exact hbefore hcharacter
  rw [splitFirst, List.dropWhile_append_of_pos hother, List.takeWhile_append_of_pos hother]
  simp

/-- What is written behind a number sign is not in the query. -/
theorem queryPart_append_of_number {content : String} (hnumber : '#' ∈ content.toList)
    (query : String) : queryPart (content ++ "?" ++ query) = queryPart content := by
  obtain ⟨before, after, hcontent, hbefore⟩ := List.eq_append_cons_of_mem hnumber
  have hwhole : (content ++ "?" ++ query).toList =
      before ++ '#' :: (after ++ '?' :: query.toList) := by
    simp [hcontent]
  rw [queryPart, queryPart, hwhole, hcontent, splitFirst_append hbefore, splitFirst_append hbefore]

/-- What is written behind a question mark goes on with the query. -/
theorem queryPart_append_of_question {content query : String} (hquestion : '?' ∈ content.toList)
    (hnumber : '#' ∉ content.toList) (hquery : '#' ∉ query.toList) :
    queryPart (content ++ "?" ++ query) = queryPart content ++ "?" ++ query := by
  obtain ⟨before, after, hcontent, hbefore⟩ := List.eq_append_cons_of_mem hquestion
  have hwhole : (content ++ "?" ++ query).toList =
      before ++ '?' :: (after ++ '?' :: query.toList) := by
    simp [hcontent]
  have hnumber' : '#' ∉ (content ++ "?" ++ query).toList := by simp [hnumber, hquery]
  rw [queryPart, queryPart, splitFirst_of_not_mem hnumber', splitFirst_of_not_mem hnumber, hwhole,
    hcontent, splitFirst_append hbefore, splitFirst_append hbefore, ← String.toList_inj]
  simp

theorem queryPart_append {content query : String} (hquestion : '?' ∉ content.toList)
    (hnumber : '#' ∉ content.toList) (hquery : '#' ∉ query.toList) :
    queryPart (content ++ "?" ++ query) = query := by
  have hwhole : (content ++ "?" ++ query).toList = content.toList ++ '?' :: query.toList := by simp
  have hnumber' : '#' ∉ (content ++ "?" ++ query).toList := by simp [hnumber, hquery]
  rw [queryPart, splitFirst_of_not_mem hnumber', hwhole, splitFirst_append hquestion]
  simp

theorem queryPart_of_neither {content : String} (hquestion : '?' ∉ content.toList)
    (hnumber : '#' ∉ content.toList) : queryPart content = "" := by
  rw [queryPart, splitFirst_of_not_mem hnumber, splitFirst_of_not_mem hquestion]
  rfl

end Address

namespace Form

/-- Two texts are split like their pieces, but for the last and the first one, which meet. -/
theorem exists_splitAt_append (separator : Char) (before after : List Char) :
    ∃ init last first rest, splitAt separator before = init ++ [last] ∧
      splitAt separator after = first :: rest ∧
      splitAt separator (before ++ after) = init ++ (last ++ first) :: rest := by
  obtain ⟨first, rest, hafter⟩ := List.exists_cons_of_ne_nil (splitAt_ne_nil separator after)
  induction before with
  | nil => exact ⟨[], [], first, rest, rfl, hafter, hafter⟩
  | cons character before ih =>
      obtain ⟨init, last, first', rest', hbefore, hafter', hwhole⟩ := ih
      by_cases hseparator : character = separator
      · refine ⟨[] :: init, last, first', rest', ?_, hafter', ?_⟩
        · rw [splitAt, if_pos hseparator, hbefore]
          rfl
        · rw [List.cons_append, splitAt, if_pos hseparator, hwhole]
          rfl
      · cases init with
        | nil =>
            refine ⟨[], character :: last, first', rest', ?_, hafter', ?_⟩
            · rw [splitAt, if_neg hseparator, hbefore]
              rfl
            · rw [List.cons_append, splitAt, if_neg hseparator, hwhole]
              rfl
        | cons piece init =>
            refine ⟨(character :: piece) :: init, last, first', rest', ?_, hafter', ?_⟩
            · rw [splitAt, if_neg hseparator, hbefore]
              rfl
            · rw [List.cons_append, splitAt, if_neg hseparator, hwhole]
              rfl

theorem mapM_eq_some_iff {α β : Type} {step : α → Option β} {items : List α} {results : List β} :
    items.mapM step = some results ↔
      List.Forall₂ (fun item result => step item = some result) items results := by
  induction items generalizing results with
  | nil => simp [eq_comm]
  | cons item items ih =>
      rw [List.mapM_cons, List.forall₂_cons_left_iff]
      simp only [Option.bind_eq_bind, Option.bind_eq_some_iff, Option.pure_def,
        Option.some.injEq, ih]
      tauto

theorem decode?_eq_some_iff {query : String} {pairs : List (String × String)} :
    decode? query = some pairs ↔
      List.Forall₂ (fun piece pair => decodePair? piece = some pair)
        ((splitAt '&' query.toList).filter (!·.isEmpty)) pairs :=
  mapM_eq_some_iff

theorem encode_cons_cons (pair next : String × String) (rest : List (String × String)) :
    encode (pair :: next :: rest) = encodePair pair ++ "&" ++ encode (next :: rest) :=
  String.intercalate_cons_cons

/-- The characters that a query is made of. -/
theorem mem_encode {pairs : List (String × String)} {character : Char}
    (hmem : character ∈ (encode pairs).toList) :
    isEncoded character = true ∨ character = '=' ∨ character = '&' := by
  have htext : ∀ content, character ∈ (encodeText content).toList → isEncoded character = true :=
    fun content hcontent => Bool.of_not_eq_false fun hother =>
      not_mem_encodeText hother content hcontent
  have hpair : ∀ pair, character ∈ (encodePair pair).toList →
      isEncoded character = true ∨ character = '=' := by
    intro pair hmem
    simp only [encodePair, String.toList_append, List.mem_append] at hmem
    rcases hmem with (hname | hequals) | hvalue
    · exact .inl (htext pair.1 hname)
    · exact .inr (List.mem_singleton.mp hequals)
    · exact .inl (htext pair.2 hvalue)
  induction pairs with
  | nil => exact absurd hmem List.not_mem_nil
  | cons pair rest ih =>
      cases rest with
      | nil => exact (hpair pair hmem).imp_right .inl
      | cons next others =>
          simp only [encode_cons_cons, String.toList_append, List.mem_append] at hmem
          rcases hmem with (hfirst | hseparator) | hothers
          · exact (hpair pair hfirst).imp_right .inl
          · exact .inr (.inr (List.mem_singleton.mp hseparator))
          · exact ih hothers

theorem number_not_mem_encode (pairs : List (String × String)) :
    '#' ∉ (encode pairs).toList := by
  intro hmem
  have hnumber := mem_encode hmem
  revert hnumber
  decide

theorem toNat_lt_of_isEncoded {character : Char} (hencoded : isEncoded character = true) :
    character.toNat < 128 := by
  simp only [isEncoded, isSafe, Percent.isUnreserved, Bool.or_eq_true, beq_iff_eq] at hencoded
  rcases hencoded with (((((hword | rfl) | rfl) | rfl) | rfl) | rfl) | rfl
  · rcases (Percent.isAlphanum_iff character).mp hword with
      (⟨-, hupper⟩ | ⟨-, hlower⟩) | ⟨-, hdigit⟩
    · exact lt_of_le_of_lt (Char.le_def.mp hupper) (by decide)
    · exact lt_of_le_of_lt (Char.le_def.mp hlower) (by decide)
    · exact lt_of_le_of_lt (Char.le_def.mp hdigit) (by decide)
  all_goals decide

/-- A query is written in ASCII. -/
theorem toNat_lt_of_mem_encode {pairs : List (String × String)} {character : Char}
    (hmem : character ∈ (encode pairs).toList) : character.toNat < 128 := by
  rcases mem_encode hmem with hencoded | rfl | rfl
  · exact toNat_lt_of_isEncoded hencoded
  · decide
  · decide

@[simp]
theorem encode_eq_empty_iff {pairs : List (String × String)} : encode pairs = "" ↔ pairs = [] := by
  constructor
  · intro hempty
    have hdecode := decode?_encode pairs
    rw [hempty] at hdecode
    exact (Option.some.inj hdecode).symm
  · rintro rfl
    rfl

/-- A question mark before a written text is a part of the text. -/
theorem decodeText?_question (content : String) :
    decodeText? ('?' :: (encodeText content).toList) = some ("?" ++ content) := by
  have hbytes : Percent.decodeBytes ('?' :: (encodeText content).toList.map plusToSpace) =
      ("?" ++ content).toList.flatMap String.utf8EncodeChar := by
    rw [Percent.decodeBytes_cons_of_ne (by decide), map_plusToSpace_encodeText,
      Percent.decodeBytes_encodeChars rfl]
    simp
  have hdecode : decodeText? ('?' :: (encodeText content).toList) =
      Percent.decode? (String.ofList ('?' :: (encodeText content).toList.map plusToSpace)) := rfl
  rw [hdecode, Percent.decode?, String.toList_ofList, hbytes, Percent.fromUTF8?_utf8EncodeChars]

/-- A question mark before a written pair is a part of its name. -/
theorem decodePair?_question (pair : String × String) :
    decodePair? ('?' :: (encodePair pair).toList) = some ("?" ++ pair.1, pair.2) := by
  have hname : '=' ∉ '?' :: (encodeText pair.1).toList := by
    have hencoded : '=' ∉ (encodeText pair.1).toList := not_mem_encodeText rfl pair.1
    simp [hencoded]
  rw [toList_encodePair, ← List.cons_append, decodePair?_append hname, decodeText?_question,
    decodeText?_encodeText]
  rfl

/-- The pieces of a query that runs into another one: what is written between the last separator
before the question mark and the first one behind it is a single piece. -/
theorem exists_splitAt_question (own : String) (item : String × String)
    (others : List (String × String)) :
    ∃ init last, splitAt '&' own.toList = init ++ [last] ∧
      splitAt '&' (own ++ "?" ++ encode (item :: others)).toList =
        init ++ (last ++ '?' :: (encodePair item).toList) ::
          others.map fun pair => (encodePair pair).toList := by
  obtain ⟨init, last, first, rest, hbefore, hafter, hpieces⟩ :=
    exists_splitAt_append '&' own.toList ('?' :: (encode (item :: others)).toList)
  have htext : (own ++ "?" ++ encode (item :: others)).toList =
      own.toList ++ '?' :: (encode (item :: others)).toList := by simp
  have hsplit : splitAt '&' ('?' :: (encode (item :: others)).toList) =
      ('?' :: (encodePair item).toList) :: others.map fun pair => (encodePair pair).toList := by
    rw [splitAt, if_neg (by decide), splitAt_encode (List.cons_ne_nil _ _)]
    rfl
  obtain ⟨rfl, rfl⟩ := List.cons.inj (hafter.symm.trans hsplit)
  rw [← htext] at hpieces
  exact ⟨init, last, hbefore, hpieces⟩

/-- The written pairs of a query, whether they decode or not. -/
def pieces (query : String) : List (List Char) :=
  (splitAt '&' query.toList).filter (!·.isEmpty)

@[simp]
theorem pieces_encode (pairs : List (String × String)) :
    pieces (encode pairs) = pairs.map fun pair => (encodePair pair).toList := by
  by_cases hpairs : pairs = []
  · subst hpairs
    rfl
  · rw [pieces, splitAt_encode hpairs, filter_encodePairs]

/-- A query that runs into another one does not have the pieces of both: its first pair is
written into the last piece of the other one, or begins with the question mark. -/
theorem pieces_append_question (own : String) {items : List (String × String)}
    (hitems : items ≠ []) :
    pieces (own ++ "?" ++ encode items) ≠ pieces own ++ pieces (encode items) := by
  intro hpieces
  obtain ⟨item, others, rfl⟩ := List.exists_cons_of_ne_nil hitems
  obtain ⟨init, last, hbefore, hwhole⟩ := exists_splitAt_question own item others
  rw [pieces_encode, pieces, hwhole, pieces, hbefore, List.filter_append,
    List.filter_cons_of_pos (by simp), filter_encodePairs, List.filter_append, List.append_assoc]
    at hpieces
  have hmeeting := List.append_cancel_left hpieces
  cases last with
  | nil =>
      have hhead := (List.cons.inj hmeeting).1
      simpa using congrArg List.length hhead
  | cons character rest =>
      simpa using congrArg List.length hmeeting

/-- A query that runs into another one does not decode to the pairs of both: either there is a
piece too few, or the first piece behind the question mark has it in its name. -/
theorem decode?_append_question {own : String} {pairs items : List (String × String)}
    (hown : decode? own = some pairs) (hitems : items ≠ []) :
    decode? (own ++ "?" ++ encode items) ≠ some (pairs ++ items) := by
  intro hwhole
  obtain ⟨item, others, rfl⟩ := List.exists_cons_of_ne_nil hitems
  obtain ⟨init, last, hbefore, hpieces⟩ := exists_splitAt_question own item others
  rw [decode?_eq_some_iff, hpieces, List.filter_append, List.filter_cons_of_pos (by simp)] at hwhole
  rw [decode?_eq_some_iff, hbefore, List.filter_append] at hown
  have hcounts := hwhole.length_eq
  have hown_count := hown.length_eq
  simp only [filter_encodePairs, List.length_append, List.length_cons,
    List.length_map] at hcounts hown_count
  have hlast : last = [] := by
    by_contra hlast
    rw [List.filter_cons_of_pos (by simpa using hlast), List.length_cons] at hown_count
    omega
  rw [hlast] at hwhole hown_count
  have hinit : (init.filter (!·.isEmpty)).length = pairs.length := by simpa using hown_count
  have htail := List.forall₂_drop_append _ _ _ hwhole
  rw [List.drop_left' hinit] at htail
  obtain ⟨hitem, -⟩ := List.forall₂_cons.mp htail
  rw [List.nil_append, decodePair?_question] at hitem
  have hname : "?" ++ item.1 = item.1 := congrArg Prod.fst (Option.some.inj hitem)
  have hlength := congrArg String.length hname
  rw [String.length_append] at hlength
  have hone : "?".length = 1 := rfl
  omega

end Form

/-- Pairs that are written behind an address follow the pieces of its query exactly when the
address has neither a question mark nor a number sign. -/
theorem Address.pieces_queryPart_iff {content : String} {items : List (String × String)}
    (hitems : items ≠ []) :
    Form.pieces (queryPart (content ++ "?" ++ Form.encode items)) =
        Form.pieces (queryPart content) ++ Form.pieces (Form.encode items) ↔
      '?' ∉ content.toList ∧ '#' ∉ content.toList := by
  have hquery := Form.number_not_mem_encode items
  by_cases hnumber : '#' ∈ content.toList
  · rw [queryPart_append_of_number hnumber, List.self_eq_append_right, Form.pieces_encode,
      List.map_eq_nil_iff]
    exact iff_of_false hitems fun hneither => hneither.2 hnumber
  by_cases hquestion : '?' ∈ content.toList
  · rw [queryPart_append_of_question hquestion hnumber hquery]
    exact iff_of_false (Form.pieces_append_question _ hitems)
      fun hneither => hneither.1 hquestion
  · rw [queryPart_append hquestion hnumber hquery, queryPart_of_neither hquestion hnumber]
    exact iff_of_true rfl ⟨hquestion, hnumber⟩

/-- Pairs that are written behind an address are the pairs that its query goes on with exactly
when the address has neither a question mark nor a number sign. -/
theorem Address.decode?_queryPart_iff {content : String} {own items : List (String × String)}
    (hown : Form.decode? (queryPart content) = some own) (hitems : items ≠ []) :
    Form.decode? (queryPart (content ++ "?" ++ Form.encode items)) = some (own ++ items) ↔
      '?' ∉ content.toList ∧ '#' ∉ content.toList := by
  have hquery := Form.number_not_mem_encode items
  by_cases hnumber : '#' ∈ content.toList
  · rw [queryPart_append_of_number hnumber, hown, Option.some.injEq, List.self_eq_append_right]
    exact iff_of_false hitems fun hneither => hneither.2 hnumber
  by_cases hquestion : '?' ∈ content.toList
  · rw [queryPart_append_of_question hquestion hnumber hquery]
    exact iff_of_false (Form.decode?_append_question hown hitems)
      fun hneither => hneither.1 hquestion
  · rw [queryPart_of_neither hquestion hnumber] at hown
    obtain rfl : [] = own := Option.some.inj hown
    rw [queryPart_append hquestion hnumber hquery, Form.decode?_encode, List.nil_append]
    exact iff_of_true rfl ⟨hquestion, hnumber⟩

end GridSource
