import TagNesting.Proofs.Json.Record

/-!
# `Proofs.Json.Triple` — records of three fields that must all be there

Nothing is made of three fields unless all of them are known (`finish_triple_eq_ok_iff`), so an object is such a record
if each of the names is that of one member, whose value can be decoded (`exists_decode_triple_iff`). What has been
written of the three is read back (`decodeRecord_triple`). And whatever a record has been decoded from, object or list,
each of its fields has been decoded from something (`exists_decoded_of_triple`), so what holds of every decoded value of
a field holds of the record.

Of the fields nothing is asked but that their names differ, and of the record that it tells its fields.
-/

namespace TagNesting.Json

variable {α β γ δ : Type} {title : String} {first : Slot β} {second : Slot γ} {third : Slot δ}
  {make : β → γ → δ → α} {result : α}

/-! ## The record -/

theorem required_eq_ok_iff {name : String} {given : Option β} {content : β} :
    required name given = .ok content ↔ given = some content := by
  cases given <;> simp [required]

/-- **All three must be known**, and then the record is made of them. -/
theorem finish_triple_eq_ok_iff {known : Triple β γ δ} :
    (Record.triple title first second third make).finish known = .ok result ↔
      ∃ one two three, known = ⟨some one, some two, some three⟩ ∧ make one two three = result := by
  obtain ⟨givenFirst, givenSecond, givenThird⟩ := known
  simp only [Record.triple, bind_eq_ok_iff, required_eq_ok_iff, Triple.mk.injEq]
  constructor
  · rintro ⟨one, rfl, two, rfl, three, rfl, hmake⟩
    exact ⟨one, two, three, ⟨rfl, rfl, rfl⟩, Except.ok.inj hmake⟩
  · rintro ⟨one, two, three, ⟨rfl, rfl, rfl⟩, rfl⟩
    exact ⟨one, rfl, two, rfl, three, rfl, rfl⟩

theorem Record.lawful_triple (h : [first.name, second.name, third.name].Nodup) :
    (triple title first second third make).Lawful where
  names_nodup := h
  get_blank := by simp [triple]
  get_set := by simp [triple]
  get_set_of_ne := by simp [triple]
  ext := by
    rintro ⟨one, two, three⟩ ⟨otherOne, otherTwo, otherThree⟩ heq
    simpa [triple] using heq

theorem Record.requires_triple :
    (triple title first second third make).Requires (triple title first second third make).fields where
  subset := List.Subset.refl _
  finish_iff := by
    intro known
    constructor
    · rintro ⟨result, hfinish⟩
      obtain ⟨one, two, three, rfl, -⟩ := finish_triple_eq_ok_iff.1 hfinish
      simp [triple]
    · obtain ⟨givenFirst, givenSecond, givenThird⟩ := known
      intro hknown
      simp only [triple, List.forall_mem_cons, Option.isSome_iff_exists] at hknown
      obtain ⟨⟨one, rfl⟩, ⟨two, rfl⟩, ⟨three, rfl⟩, -⟩ := hknown
      exact ⟨make one two three, finish_triple_eq_ok_iff.2 ⟨one, two, three, rfl, rfl⟩⟩

/-! ## What is written of a record -/

/-- **A written record is read back** if its three values are. -/
theorem decodeRecord_triple (h : [first.name, second.name, third.name].Nodup) {one : β} {two : γ} {three : δ}
    {firstValue secondValue thirdValue : Value} (hfirst : first.decode firstValue.reading = .ok one)
    (hsecond : second.decode secondValue.reading = .ok two) (hthird : third.decode thirdValue.reading = .ok three) :
    decodeRecord (Record.triple title first second third make) (Value.object
      [(first.name, firstValue), (second.name, secondValue), (third.name, thirdValue)]).reading =
        .ok (make one two three) := by
  let record := Record.triple title first second third make
  have hlawful : record.Lawful := Record.lawful_triple h
  have hmembers : decodeMembers record.fields record.blank (membersReading
      [(first.name, firstValue), (second.name, secondValue), (third.name, thirdValue)]) =
        .ok ⟨some one, some two, some three⟩ := by
    have hfindFirst := hlawful.find?_eq_some (List.mem_cons_self)
    have hfindSecond := hlawful.find?_eq_some (List.mem_cons_of_mem _ List.mem_cons_self)
    have hfindThird := hlawful.find?_eq_some (List.mem_cons_of_mem _ (List.mem_cons_of_mem _ List.mem_cons_self))
    rw [membersReading, decodeMembers_cons hfindFirst rfl hfirst]
    rw [membersReading, decodeMembers_cons hfindSecond rfl hsecond]
    rw [membersReading, decodeMembers_cons hfindThird rfl hthird]
    rfl
  exact (decodeRecord_object hmembers).trans (finish_triple_eq_ok_iff.2 ⟨one, two, three, rfl, rfl⟩)

/-! ## What a record has been decoded from -/

/-- What is known of each field has been decoded from something. -/
def Triple.IsDecoded (first : Slot β) (second : Slot γ) (third : Slot δ) (known : Triple β γ δ) : Prop :=
  (∀ one ∈ known.first, ∃ reading, first.decode reading = .ok one) ∧
    (∀ two ∈ known.second, ∃ reading, second.decode reading = .ok two) ∧
    ∀ three ∈ known.third, ∃ reading, third.decode reading = .ok three

theorem keeps_isDecoded : ∀ field ∈ (Record.triple title first second third make).fields,
    field.Keeps (Triple.IsDecoded first second third) := by
  simp only [Record.triple, List.forall_mem_cons]
  refine ⟨?_, ?_, ?_, List.forall_mem_nil _⟩
  · rintro known reading one ⟨-, htwo, hthree⟩ hone
    exact ⟨by rintro _ ⟨⟩; exact ⟨reading, hone⟩, htwo, hthree⟩
  · rintro known reading two ⟨hone, -, hthree⟩ htwo
    exact ⟨hone, by rintro _ ⟨⟩; exact ⟨reading, htwo⟩, hthree⟩
  · rintro known reading three ⟨hone, htwo, -⟩ hthree
    exact ⟨hone, htwo, by rintro _ ⟨⟩; exact ⟨reading, hthree⟩⟩

/-- **A decoded record is made of decoded values**, whether they came as members or as items. -/
theorem exists_decoded_of_triple {reading : Reading}
    (h : decodeRecord (Record.triple title first second third make) reading = .ok result) :
    ∃ one two three, make one two three = result ∧ (∃ reading, first.decode reading = .ok one) ∧
      (∃ reading, second.decode reading = .ok two) ∧ ∃ reading, third.decode reading = .ok three := by
  have hblank : Triple.IsDecoded first second third {} :=
    ⟨fun _ hone => absurd hone (by simp), fun _ htwo => absurd htwo (by simp), fun _ hthree => absurd hthree (by simp)⟩
  obtain ⟨known, hknown, hfinish | ⟨found, hshort⟩⟩ := decodeRecord_keeps keeps_isDecoded hblank h
  · obtain ⟨one, two, three, rfl, hmake⟩ := finish_triple_eq_ok_iff.1 hfinish
    obtain ⟨hone, htwo, hthree⟩ := hknown
    exact ⟨one, two, three, hmake, hone one rfl, htwo two rfl, hthree three rfl⟩
  · exact absurd hshort (by simp [Record.triple])

/-! ## Objects from elsewhere -/

section Objects

variable {text : List Char} {named : Named}

theorem holds_triple_iff {known : Triple β γ δ} :
    (Record.triple title first second third make).Holds named known ↔
      Gives first.decode (valuesOf first.name named) known.first ∧
        Gives second.decode (valuesOf second.name named) known.second ∧
        Gives third.decode (valuesOf third.name named) known.third := by
  simp only [Record.Holds, Record.triple, List.forall_mem_cons, List.not_mem_nil, false_implies, implies_true, and_true]

/-- **Which objects are such a record**: those in which each name is that of one member, whose value is decoded. -/
theorem exists_decode_triple_iff (h : [first.name, second.name, third.name].Nodup) (hobject : IsObject text named) :
    (∃ result, decode (decodeRecord (Record.triple title first second third make)) text = .ok result) ↔
      (Admits first.decode (valuesOf first.name named) ∧ Admits second.decode (valuesOf second.name named) ∧
        Admits third.decode (valuesOf third.name named)) ∧
        ∀ name ∈ [first.name, second.name, third.name], valuesOf name named ≠ [] := by
  refine (exists_decode_object_iff (Record.lawful_triple h) Record.requires_triple hobject).trans ?_
  simp [Record.triple]

/-- **Which record such an object is**, if a record tells what it has been made of. -/
theorem decode_triple_iff (h : [first.name, second.name, third.name].Nodup)
    (hmake : ∀ one two three one' two' three', make one two three = make one' two' three' →
      one = one' ∧ two = two' ∧ three = three') (hobject : IsObject text named) {one : β} {two : γ} {three : δ} :
    decode (decodeRecord (Record.triple title first second third make)) text = .ok (make one two three) ↔
      Gives first.decode (valuesOf first.name named) (some one) ∧
        Gives second.decode (valuesOf second.name named) (some two) ∧
        Gives third.decode (valuesOf third.name named) (some three) := by
  rw [decode_object_eq_ok_iff (Record.lawful_triple h) hobject]
  constructor
  · rintro ⟨known, hknown, hfinish⟩
    obtain ⟨one', two', three', rfl, heq⟩ := finish_triple_eq_ok_iff.1 hfinish
    obtain ⟨rfl, rfl, rfl⟩ := hmake _ _ _ _ _ _ heq
    exact holds_triple_iff.1 hknown
  · intro hgives
    exact ⟨⟨some one, some two, some three⟩, holds_triple_iff.2 hgives,
      finish_triple_eq_ok_iff.2 ⟨one, two, three, rfl, rfl⟩⟩

end Objects

end TagNesting.Json
