import Mathlib.Data.List.Nodup
import TagNesting.Proofs.Json.Faithful
import TagNesting.Proofs.Json.Members

/-!
# `Proofs.Json.Record` — what the members of an object make of a record

A record is filled member by member, and what is wrong with a member is found when it comes. The result is the same as
if the members had been sorted by name first: every field holds what all members of its name give (`Record.Holds`).

A member that no field has the name of keeps this, and so does the first member of a field, which makes the field known
(`Record.Holds.concat_unknown`, `Record.Holds.concat_new`). A second member of a field, or one that cannot be decoded,
ends the matter, and then there is nothing that the members give. The induction goes along the members, with those
that have been seen as a variable (`decodeMembers_eq_ok_iff`), and needs of the fields no more than that they do not
get into each other's way (`Record.Lawful`).

So an object is decoded to a record if it has the fields that the record must have, and nothing is wrong with the values
of any (`exists_decode_object_iff`), and any object with the same members of these names will do
(`decode_eq_of_sameMembers`). A record written as a list is decoded as the object is whose members have the names of the
fields, in order (`decode_list_eq_object`).
-/

namespace TagNesting.Json

variable {α σ : Type} {name : String} {value : Reading} {named : Named}

/-! ## Filling a record -/

/-- The fields of a record do not get into each other's way, and they are all there is to it. -/
structure Record.Lawful (record : Record σ α) : Prop where
  names_nodup : (record.fields.map Field.name).Nodup
  get_blank : ∀ field ∈ record.fields, field.get record.blank = none
  get_set : ∀ field ∈ record.fields, ∀ known content, field.get (field.set known content) = some content
  get_set_of_ne : ∀ field ∈ record.fields, ∀ other ∈ record.fields, other.name ≠ field.name →
    ∀ known content, other.get (field.set known content) = other.get known
  ext : ∀ first second, (∀ field ∈ record.fields, field.get first = field.get second) → first = second

/-- What is known of every field is what the members give of it. -/
def Record.Holds (record : Record σ α) (named : Named) (known : σ) : Prop :=
  ∀ field ∈ record.fields, Gives field.decode (valuesOf field.name named) (field.get known)

variable {record : Record σ α} {field : Field σ} {known last : σ}

theorem Record.Lawful.eq_of_name_eq (h : record.Lawful) {other : Field σ} (hfield : field ∈ record.fields)
    (hother : other ∈ record.fields) (hname : other.name = field.name) : other = field :=
  List.inj_on_of_nodup_map h.names_nodup hother hfield hname

theorem Record.Lawful.name_not_mem (h : record.Lawful) {fields : List (Field σ)}
    (hfields : field :: fields <:+ record.fields) : field.name ∉ fields.map Field.name :=
  (List.nodup_cons.1 (h.names_nodup.sublist (hfields.sublist.map Field.name))).1

theorem Record.Lawful.find?_eq_some (h : record.Lawful) (hfield : field ∈ record.fields) :
    record.fields.find? (·.name = field.name) = some field := by
  cases hfind : record.fields.find? (·.name = field.name) with
  | none => exact absurd (List.find?_eq_none.1 hfind field hfield) (by simp)
  | some other =>
      have hname : other.name = field.name := by simpa using List.find?_some hfind
      rw [h.eq_of_name_eq hfield (List.mem_of_find?_eq_some hfind) hname]

/-- Nothing is known of a record of which no member has been seen. -/
theorem Record.Lawful.holds_nil (h : record.Lawful) : record.Holds [] record.blank := by
  intro field hfield
  rw [valuesOf_nil, h.get_blank field hfield]
  exact .absent

/-- The members leave nothing open. -/
theorem Record.Lawful.holds_iff_eq (h : record.Lawful) (hknown : record.Holds named known) :
    record.Holds named last ↔ known = last := by
  constructor
  · intro hlast
    exact h.ext known last fun field hfield => (hknown field hfield).unique (hlast field hfield)
  · rintro rfl
    exact hknown

/-- A member that no field has the name of changes nothing. -/
theorem Record.Holds.concat_unknown (h : record.Holds named known) (hname : ∀ field ∈ record.fields, name ≠ field.name)
    (value : Reading) : record.Holds (named ++ [(name, value)]) known := by
  intro field hfield
  rw [valuesOf_append, valuesOf_cons_of_ne (hname field hfield), valuesOf_nil, List.append_nil]
  exact h field hfield

/-- A member of a field of which nothing is known yet makes it known, and no other. -/
theorem Record.Holds.concat_new (hlawful : record.Lawful) (h : record.Holds named known)
    (hfield : field ∈ record.fields) (hopen : valuesOf field.name named = []) {content : field.Value}
    (hcontent : field.decode value = .ok content) :
    record.Holds (named ++ [(field.name, value)]) (field.set known content) := by
  intro other hother
  rw [valuesOf_append]
  by_cases hname : other.name = field.name
  · obtain rfl := hlawful.eq_of_name_eq hfield hother hname
    rw [hopen, valuesOf_cons_self, hlawful.get_set other hfield]
    exact .present hcontent
  · rw [valuesOf_cons_of_ne (Ne.symm hname), valuesOf_nil, List.append_nil,
      hlawful.get_set_of_ne field hfield other hother hname]
    exact h other hother

/-- If a member of a field comes first of its kind and all goes well, its value has been decoded. -/
theorem Record.Holds.decode_eq_ok (h : record.Holds named known) (hfield : field ∈ record.fields)
    {more : List Reading} (hvalues : valuesOf field.name named = value :: more) :
    ∃ content, field.decode value = .ok content := by
  have hgives := h field hfield
  rw [hvalues] at hgives
  generalize field.get known = given at hgives
  cases hgives with
  | present hcontent => exact ⟨_, hcontent⟩

/-- **What the members of an object make of a record.** Behind members that have given what is known, the further ones
are decoded just if every field has been given something by all of them, and this is what is known of it then. -/
theorem decodeMembers_eq_ok_iff (h : record.Lawful) {members : Members} (hnamed : AreNamed members named)
    (hskip : CanSkip members) {seen : Named} (hseen : record.Holds seen known) :
    decodeMembers record.fields known members = .ok last ↔ record.Holds (seen ++ named) last := by
  induction hnamed generalizing seen known with
  | nil => rw [List.append_nil, h.holds_iff_eq hseen, decodeMembers, Except.ok.injEq]
  | @cons member entry members named hentry hnamed ih =>
      obtain ⟨key, value⟩ := member
      obtain ⟨name, _⟩ := entry
      obtain ⟨hword, rfl⟩ := hentry
      obtain ⟨hvalue, hrest⟩ := List.forall_mem_cons.1 hskip
      cases hfind : record.fields.find? (·.name = name) with
      | none =>
          -- the member is of no account
          have hunknown : ∀ field ∈ record.fields, name ≠ field.name := by
            rintro field hfield rfl
            exact absurd ((h.find?_eq_some hfield).symm.trans hfind) (by simp)
          rw [decodeMembers_cons_unknown hword hfind hvalue, List.append_cons]
          exact ih hrest (hseen.concat_unknown hunknown value)
      | some field =>
          have hfield := List.mem_of_find?_eq_some hfind
          obtain rfl : field.name = name := by simpa using List.find?_some hfind
          have hgiven := hseen field hfield
          have hvalues : valuesOf field.name (seen ++ (field.name, value) :: named) =
              valuesOf field.name seen ++ value :: valuesOf field.name named := by
            rw [valuesOf_append, valuesOf_cons_self]
          cases hknown : field.get known with
          | some content =>
              -- the field has been given by a member before this one
              rw [decodeMembers_cons_again hword hfind (by rw [hknown]; rfl)]
              rw [hknown] at hgiven
              refine iff_of_false (by simp) fun hlast => ?_
              exact hgiven.not_append_cons _ _ _ (hvalues ▸ hlast field hfield)
          | none =>
              have hopen : valuesOf field.name seen = [] := by
                rw [hknown] at hgiven
                generalize valuesOf field.name seen = before at hgiven
                cases hgiven
                rfl
              rw [hopen, List.nil_append] at hvalues
              rw [decodeMembers_cons_new hword hfind hknown]
              cases hcontent : field.decode value with
              | error problem =>
                  refine iff_of_false (by simp [bind, Except.bind]) fun hlast => ?_
                  obtain ⟨content, hdecoded⟩ := hlast.decode_eq_ok hfield hvalues
                  exact absurd (hcontent.symm.trans hdecoded) (by simp)
              | ok content =>
                  rw [List.append_cons]
                  exact ih hrest (hseen.concat_new h hfield hopen hcontent)

/-- **Which texts of objects are decoded to a record, and to which.** -/
theorem decode_object_eq_ok_iff (h : record.Lawful) {text : List Char} (hobject : IsObject text named) {result : α} :
    decode (decodeRecord record) text = .ok result ↔
      ∃ known, record.Holds named known ∧ record.finish known = .ok result := by
  obtain ⟨members, hspelled, hnamed⟩ := hobject
  obtain ⟨-, hskip⟩ := isSkipped_of_spelled hspelled
  have hmembers (last : σ) : decodeMembers record.fields record.blank members = .ok last ↔ record.Holds named last :=
    decodeMembers_eq_ok_iff h hnamed hskip h.holds_nil
  rw [decode_of_spelled _ hspelled]
  constructor
  · intro hdecoded
    obtain ⟨known, hknown, hfinish⟩ := bind_eq_ok_iff.1 hdecoded
    exact ⟨known, (hmembers known).1 hknown, hfinish⟩
  · rintro ⟨known, hknown, hfinish⟩
    rw [decodeRecord_object ((hmembers known).2 hknown), hfinish]

/-! ## Which objects are records -/

/-- Fields that may be filled one by one may be filled together. -/
theorem Record.Lawful.exists_filled (h : record.Lawful) {fields : List (Field σ)} (hfields : fields <:+ record.fields)
    (hadmits : ∀ field ∈ fields, Admits field.decode (valuesOf field.name named)) :
    ∃ known, (∀ field ∈ fields, Gives field.decode (valuesOf field.name named) (field.get known)) ∧
      ∀ field ∈ record.fields, field.name ∉ fields.map Field.name → field.get known = none := by
  induction fields with
  | nil => exact ⟨record.blank, List.forall_mem_nil _, fun field hfield _ => h.get_blank field hfield⟩
  | cons field fields ih =>
      have hrest : fields <:+ record.fields := (List.suffix_cons field fields).trans hfields
      have hfield : field ∈ record.fields := hfields.subset List.mem_cons_self
      have hnew : field.name ∉ fields.map Field.name := h.name_not_mem hfields
      obtain ⟨hfirst, hothers⟩ := List.forall_mem_cons.1 hadmits
      obtain ⟨known, hgiven, hopen⟩ := ih hrest hothers
      obtain ⟨given, hgives⟩ := exists_gives_iff.2 hfirst
      cases given with
      | none =>
          refine ⟨known, List.forall_mem_cons.2 ⟨?_, hgiven⟩, fun other hother hname => ?_⟩
          · rwa [hopen field hfield hnew]
          · exact hopen other hother fun hmem => hname (List.mem_cons_of_mem _ hmem)
      | some content =>
          refine ⟨field.set known content, List.forall_mem_cons.2 ⟨?_, fun other hother => ?_⟩,
            fun other hother hname => ?_⟩
          · rwa [h.get_set field hfield]
          · have hne : other.name ≠ field.name := fun hname => hnew (hname ▸ List.mem_map_of_mem hother)
            rw [h.get_set_of_ne field hfield other (hrest.subset hother) hne]
            exact hgiven other hother
          · rw [List.map_cons, List.mem_cons, not_or] at hname
            obtain ⟨hne, hlater⟩ := hname
            rw [h.get_set_of_ne field hfield other hother hne]
            exact hopen other hother hlater

/-- The fields that a record must have to be finished. -/
structure Record.Requires (record : Record σ α) (required : List (Field σ)) : Prop where
  subset : required ⊆ record.fields
  finish_iff : ∀ known, (∃ result, record.finish known = .ok result) ↔
    ∀ field ∈ required, (field.get known).isSome = true

/-- **Which objects are decoded to a record**: those that have the fields that are required, and nothing wrong with the
values of any. -/
theorem exists_decode_object_iff (h : record.Lawful) {required : List (Field σ)} (hrequired : record.Requires required)
    {text : List Char} (hobject : IsObject text named) :
    (∃ result, decode (decodeRecord record) text = .ok result) ↔
      (∀ field ∈ record.fields, Admits field.decode (valuesOf field.name named)) ∧
        ∀ field ∈ required, valuesOf field.name named ≠ [] := by
  have hthere {known : σ} (hknown : record.Holds named known) :
      (∃ result, record.finish known = .ok result) ↔ ∀ field ∈ required, valuesOf field.name named ≠ [] := by
    rw [hrequired.finish_iff]
    exact forall₂_congr fun field hfield => (hknown field (hrequired.subset hfield)).isSome_iff
  simp only [decode_object_eq_ok_iff h hobject]
  constructor
  · rintro ⟨result, known, hknown, hfinish⟩
    exact ⟨fun field hfield => exists_gives_iff.1 ⟨_, hknown field hfield⟩, (hthere hknown).1 ⟨result, hfinish⟩⟩
  · rintro ⟨hadmits, hany⟩
    obtain ⟨known, hknown, -⟩ := h.exists_filled List.suffix_rfl hadmits
    obtain ⟨result, hfinish⟩ := (hthere hknown).2 hany
    exact ⟨result, known, hknown, hfinish⟩

/-- **Nothing else matters**: neither the order of the members nor those that no field has the name of. -/
theorem decode_eq_of_sameMembers (h : record.Lawful) {text otherText : List Char} {others : Named}
    (hobject : IsObject text named) (hother : IsObject otherText others)
    (hsame : SameMembers (record.fields.map Field.name) named others) :
    (decode (decodeRecord record) text).toOption = (decode (decodeRecord record) otherText).toOption := by
  have hvalues (field : Field σ) (hfield : field ∈ record.fields) :
      (valuesOf field.name named).Perm (valuesOf field.name others) :=
    hsame.perm_valuesOf (List.mem_map_of_mem hfield)
  have hholds (known : σ) : record.Holds named known ↔ record.Holds others known := by
    constructor
    · exact fun hknown field hfield => (hknown field hfield).perm (hvalues field hfield)
    · exact fun hknown field hfield => (hknown field hfield).perm (hvalues field hfield).symm
  refine Option.ext fun result => ?_
  rw [toOption_eq_some_iff, toOption_eq_some_iff, decode_object_eq_ok_iff h hobject, decode_object_eq_ok_iff h hother]
  simp only [hholds]

/-! ## Records as lists -/

/-- Members with the names of the fields to come, in order, are decoded as the items of a list are. -/
theorem decodeMembers_eq_decodeItems (h : record.Lawful) {fields : List (Field σ)} (hfields : fields <:+ record.fields)
    {items : List Reading} (hlength : items.length ≤ fields.length) {members : Members}
    (hnamed : AreNamed members ((fields.map Field.name).zip items)) (hopen : ∀ field ∈ fields, field.get known = none) :
    decodeMembers record.fields known members = decodeItems known fields items := by
  induction fields generalizing items members known with
  | nil =>
      obtain rfl : items = [] := List.length_eq_zero_iff.1 (Nat.le_zero.1 hlength)
      cases hnamed
      rfl
  | cons field fields ih =>
      cases items with
      | nil =>
          cases hnamed
          rfl
      | cons item items =>
          rw [List.map_cons, List.zip_cons_cons] at hnamed
          cases hnamed with
          | @cons member _ members _ hentry hnamed =>
              obtain ⟨key, value⟩ := member
              obtain ⟨hword, rfl⟩ := hentry
              obtain ⟨hfirst, hothers⟩ := List.forall_mem_cons.1 hopen
              have hfield : field ∈ record.fields := hfields.subset List.mem_cons_self
              have hrest : fields <:+ record.fields := (List.suffix_cons field fields).trans hfields
              rw [decodeMembers_cons_new hword (h.find?_eq_some hfield) hfirst, decodeItems]
              refine bind_congr fun content => ih hrest (Nat.le_of_succ_le_succ hlength) hnamed fun other hother => ?_
              have hname : other.name ≠ field.name := fun hname =>
                h.name_not_mem hfields (hname ▸ List.mem_map_of_mem hother)
              rw [h.get_set_of_ne field hfield other (hrest.subset hother) hname, hothers other hother]

/-- **A record written as a list** is what the object of the same values is, if an object and a list that leave the same
fields open are finished in the same way. -/
theorem decode_list_eq_object (h : record.Lawful) {items : List Reading} {listText text : List Char}
    (hlist : Spelled (.value (.list items none)) listText) (hlength : items.length ≤ record.fields.length)
    (hobject : IsObject text ((record.fields.map Field.name).zip items))
    (hshort : ∀ found known, record.finishShort found known = record.finish known) :
    decode (decodeRecord record) listText = decode (decodeRecord record) text := by
  obtain ⟨members, hspelled, hnamed⟩ := hobject
  have hfields := decodeMembers_eq_decodeItems h List.suffix_rfl hlength hnamed h.get_blank
  rw [decode_of_spelled _ hlist, decode_of_spelled _ hspelled]
  simp only [decodeRecord, hfields, hshort, ite_self]

end TagNesting.Json
