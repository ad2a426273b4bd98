import GridSource.Proofs.Outcome
import GridSource.Proofs.Url.Path
import GridSource.Store.Operation

/-!
# Addresses of records

A record has the address of its resource without trailing slashes, a slash and the component
of its key.  A change and a removal of the record ask for this address, and two keys share it
exactly when they are shown by the same text.
-/

namespace GridSource

/-- The key of the record that an operation writes to. -/
def Operation.writtenKey? : Operation → Option Value
  | .update key _ | .remove key => some key
  | _ => none

namespace Store

/-! ## Trailing slashes -/

@[simp]
theorem toList_withoutTrailingSlashes (address : String) :
    (withoutTrailingSlashes address).toList = address.toList.rdropWhile (· == '/') := by
  rw [withoutTrailingSlashes, String.toList_ofList]
  rfl

theorem getLast?_withoutTrailingSlashes (address : String) :
    (withoutTrailingSlashes address).toList.getLast? ≠ some '/' := by
  intro hlast
  rw [toList_withoutTrailingSlashes] at hlast
  have hne : address.toList.rdropWhile (· == '/') ≠ [] := by
    intro hnil
    rw [hnil] at hlast
    contradiction
  refine List.rdropWhile_last_not (· == '/') address.toList hne ?_
  rw [(List.getLast_eq_iff_getLast?_eq_some hne).mpr hlast]
  rfl

/-! ## Components of keys -/

theorem isKeySafe_iff (character : Char) :
    isKeySafe character = true ↔ Percent.IsComponentCharacter character := by
  simp only [isKeySafe, Percent.isUnreserved, Percent.isAlphanum_iff,
    Percent.IsComponentCharacter, Percent.componentMarks, Bool.or_eq_true, decide_eq_true_eq,
    beq_iff_eq, List.contains_eq_mem, List.mem_cons, List.not_mem_nil, or_false]
  grind

variable {store : Store} {key : Value}

/-- The component of a key is that of its text, where this can be encoded. -/
theorem encodedKey_eq_ok_iff {segment : String} :
    store.encodedKey key = .ok segment ↔
      ∃ shown, key.display = .ok shown ∧ store.assembler.alphabet.encodes shown = true ∧
        Percent.component shown = segment := by
  rw [encodedKey, Outcome.bind_eq_ok_iff]
  refine exists_congr fun shown => and_congr_right fun _ => ?_
  rw [Percent.encode_eq_component isKeySafe_iff]
  cases store.assembler.alphabet.encodes shown <;> simp [pure, Except.pure]

theorem encodedKey_eq_error_iff {cause : Misuse} :
    store.encodedKey key = .error cause ↔
      key.display = .error cause ∨ ∃ shown, key.display = .ok shown ∧
        store.assembler.alphabet.encodes shown = false ∧ .notEncodable = cause := by
  rw [encodedKey, Outcome.bind_eq_error_iff]
  refine or_congr_right (exists_congr fun shown => and_congr_right fun _ => ?_)
  cases store.assembler.alphabet.encodes shown <;> simp [pure, Except.pure]

section

variable {address : String} (hurl : store.url = .text address)

include hurl

theorem recordUrl_eq (key : Value) :
    store.recordUrl key = (fun segment =>
      .text (withoutTrailingSlashes address ++ "/" ++ segment)) <$> store.encodedKey key := by
  rw [recordUrl, hurl]
  cases store.encodedKey key <;> rfl

theorem plan_remove (key : Value) :
    store.plan (.remove key) = liftMisuse ((fun segment =>
      { method := "DELETE", url := .text (withoutTrailingSlashes address ++ "/" ++ segment)
        body := none }) <$> store.encodedKey key) := by
  rw [plan, recordUrl_eq hurl]
  cases store.encodedKey key <;> rfl

theorem plan_update (key values : Value) :
    store.plan (.update key values) = liftMisuse do
      let segment ← store.encodedKey key
      let members ← values.toMembers
      return { method := "PATCH"
               url := .text (withoutTrailingSlashes address ++ "/" ++ segment)
               body := some (.object members) } := by
  rw [plan, recordUrl_eq hurl]
  cases store.encodedKey key with
  | error cause => rfl
  | ok segment => cases values.toMembers <;> rfl

/-- The address of every request that writes to a record. -/
theorem url_of_plan {operation : Operation} {key : Value} {planned : Request}
    (hkey : operation.writtenKey? = some key) (hplan : store.plan operation = .ok planned) :
    ∃ segment, store.encodedKey key = .ok segment ∧
      planned.url = .text (withoutTrailingSlashes address ++ "/" ++ segment) := by
  cases operation with
  | remove other =>
      obtain rfl := Option.some.inj hkey
      rw [plan_remove hurl, liftMisuse, Outcome.mapError_eq_ok_iff] at hplan
      obtain ⟨segment, hsegment, rfl⟩ := Outcome.map_eq_ok_iff.mp hplan
      exact ⟨segment, hsegment, rfl⟩
  | update other values =>
      obtain rfl := Option.some.inj hkey
      rw [plan_update hurl, liftMisuse, Outcome.mapError_eq_ok_iff] at hplan
      obtain ⟨segment, hsegment, hplan⟩ := Outcome.bind_eq_ok_iff.mp hplan
      obtain ⟨members, -, hplan⟩ := Outcome.bind_eq_ok_iff.mp hplan
      obtain rfl := Except.ok.inj hplan
      exact ⟨segment, hsegment, rfl⟩
  | _ => contradiction

/-- A change and a removal of a record ask for the address of the resource without its
trailing slashes, a slash and the component of the key.  Nothing in the component separates
parts of the address, it decodes to the text of the key, and it tells the texts of keys
apart.  A key without a text, or with half of a surrogate pair in it, is refused by both. -/
theorem plan_writes :
    ∃ resource count, address = resource ++ String.ofList (List.replicate count '/') ∧
      resource.toList.getLast? ≠ some '/' ∧
      (∀ key shown, key.display = .ok shown → store.assembler.alphabet.encodes shown = true →
        ∃ segment, segment = Percent.component shown ∧ Percent.IsComponent segment.toList ∧
          (∀ separator ∈ ['/', '?', '#'], separator ∉ segment.toList) ∧
          Percent.decode? segment = some shown ∧
          store.plan (.remove key) = .ok
            { method := "DELETE", url := .text (resource ++ "/" ++ segment), body := none } ∧
          ∀ values, store.plan (.update key values) = (fun members =>
            { method := "PATCH", url := .text (resource ++ "/" ++ segment)
              body := some (.object members) }) <$> liftMisuse values.toMembers) ∧
      (∀ key shown, key.display = .ok shown → store.assembler.alphabet.encodes shown = false →
        store.plan (.remove key) = .error (.misuse .notEncodable) ∧
          ∀ values, store.plan (.update key values) = .error (.misuse .notEncodable)) ∧
      (∀ key cause, key.display = .error cause →
        store.plan (.remove key) = .error (.misuse cause) ∧
          ∀ values, store.plan (.update key values) = .error (.misuse cause)) ∧
      ∀ operation operation' key key' planned planned',
        Operation.writtenKey? operation = some key →
        Operation.writtenKey? operation' = some key' →
        store.plan operation = .ok planned → store.plan operation' = .ok planned' →
        (planned.url = planned'.url ↔ key.display = key'.display) := by
  have hrefused {key : Value} {cause : Misuse} (hkey : store.encodedKey key = .error cause) :
      store.plan (.remove key) = .error (.misuse cause) ∧
        ∀ values, store.plan (.update key values) = .error (.misuse cause) := by
    rw [plan_remove hurl, hkey]
    refine ⟨rfl, fun values => ?_⟩
    rw [plan_update hurl, hkey]
    rfl
  obtain ⟨count, hcount⟩ := Address.exists_trailingSlashes address.toList
  refine ⟨withoutTrailingSlashes address, count, ?_, getLast?_withoutTrailingSlashes address,
    fun key shown hshown hencodes => ?_,
    fun key shown hshown hhalf => hrefused
      (encodedKey_eq_error_iff.mpr (.inr ⟨shown, hshown, hhalf, rfl⟩)),
    fun key cause hcause => hrefused (encodedKey_eq_error_iff.mpr (.inl hcause)),
    fun _ _ key key' _ _ hkey hkey' hplan hplan' => ?_⟩
  · rwa [← String.toList_inj, String.toList_append, String.toList_ofList,
      toList_withoutTrailingSlashes]
  · have hcomponent := Percent.isComponent_component shown
    have hseparator : ∀ separator ∈ ['/', '?', '#'],
        ¬ Percent.IsComponentCharacter separator ∧ separator ≠ '%' :=
      List.forall_iff_forall_mem.mp (by decide)
    have hkey : store.encodedKey key = .ok (Percent.component shown) :=
      encodedKey_eq_ok_iff.mpr ⟨shown, hshown, hencodes, rfl⟩
    refine ⟨_, rfl, hcomponent,
      fun separator hmem => hcomponent.not_mem (hseparator _ hmem).1 (hseparator _ hmem).2,
      Percent.decode?_component _, ?_, fun values => ?_⟩
    · rw [plan_remove hurl, hkey]
      rfl
    · rw [plan_update hurl, hkey]
      cases values.toMembers <;> rfl
  · obtain ⟨segment, hsegment, hplanned⟩ := url_of_plan hurl hkey hplan
    obtain ⟨segment', hsegment', hplanned'⟩ := url_of_plan hurl hkey' hplan'
    obtain ⟨shown, hshown, -, rfl⟩ := encodedKey_eq_ok_iff.mp hsegment
    obtain ⟨shown', hshown', -, rfl⟩ := encodedKey_eq_ok_iff.mp hsegment'
    rw [hplanned, hplanned', hshown, hshown', Value.text.injEq, String.append_right_inj,
      Percent.component_injective.eq_iff, Except.ok.injEq]

end

def slashedStore : Store :=
  { properties := { StoreProperties.default with url := .text "http://x/users//" }
    assembler := Assembler.default }

/-- A key that holds a slash, and a number with the address of its text. -/
theorem plan_writes_slash :
    (∃ segment, '/' ∉ segment.toList ∧ Percent.decode? segment = some "a/é" ∧
      segment = "a%2F%C3%A9" ∧ slashedStore.plan (.remove (.text "a/é")) = .ok
        { method := "DELETE", url := .text ("http://x/users" ++ "/" ++ segment), body := none }) ∧
      ∀ planned planned', slashedStore.plan (.remove (.int 7)) = .ok planned →
        slashedStore.plan (.update (.text "7") (.object [])) = .ok planned' →
        planned.url = planned'.url := by
  have hurl : slashedStore.url = .text "http://x/users//" := rfl
  obtain ⟨resource, count, haddress, hlast, hkey, -, -, hsame⟩ := plan_writes hurl
  constructor
  · obtain ⟨segment, hsegment, -, hseparator, hdecode, -, -⟩ :=
      hkey (.text "a/é") "a/é" rfl (Alphabet.encodes_unicode _)
    have hencoded : slashedStore.encodedKey (.text "a/é") = .ok segment :=
      encodedKey_eq_ok_iff.mpr ⟨"a/é", rfl, Alphabet.encodes_unicode _, hsegment.symm⟩
    refine ⟨segment, hseparator _ List.mem_cons_self, hdecode, hsegment, ?_⟩
    rw [plan_remove hurl, hencoded]
    rfl
  · intro planned planned' hplan hplan'
    exact (hsame _ _ (.int 7) (.text "7") _ _ rfl rfl hplan hplan').mpr rfl

end Store

end GridSource
