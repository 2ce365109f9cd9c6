import TagNesting.Proofs.Finding.Json
import TagNesting.Proofs.Settings.Json
import TagNesting.Proofs.Token.Json

/-!
# `Proofs.Json.Objects` — which objects load, and as what

Settings, tokens and findings may come from elsewhere as objects, with members in any order, keys and values spelled in
any way, and members that nobody knows among them. Which of these objects are taken, and what they are taken for, is
told here from their members alone: the text of an object is any that the grammar has (`IsObject`), and its members
are looked at by name (`valuesOf`).
-/

namespace TagNesting

open Json

/-- **Which objects load, and as what.** An object is settings, a token or a finding if no known name is that of two
members, if each value under a known name is decoded, and, for tokens and findings, if all three names are there. The
fields then have what the values are decoded to, and settings have the default of a field that is not given. So
neither the order of the members matters, nor what members there are with other names; and settings that are written
as a list of the first fields are those of the object with these fields. -/
theorem objects_that_load {text : List Char} {named : Named} (h : IsObject text named) :
    (((∃ settings, decode Settings.ofReading text = .ok settings) ↔
        Admits SkipPolicy.ofReading (valuesOf "mismatch_policy" named) ∧
          Admits ScanMode.ofReading (valuesOf "scan_mode" named)) ∧
      ((∃ token, decode Token.ofReading text = .ok token) ↔
        (Admits Token.Kind.ofReading (valuesOf "kind" named) ∧ Admits decodeText (valuesOf "name" named) ∧
          Admits decodeLine (valuesOf "line" named)) ∧
          ∀ name ∈ ["kind", "name", "line"], valuesOf name named ≠ []) ∧
      ((∃ finding, decode Finding.ofReading text = .ok finding) ↔
        (Admits Finding.Kind.ofReading (valuesOf "kind" named) ∧ Admits decodeLine (valuesOf "line" named) ∧
          Admits decodeText (valuesOf "detail" named)) ∧
          ∀ name ∈ ["kind", "line", "detail"], valuesOf name named ≠ [])) ∧
      ((∀ settings : Settings, decode Settings.ofReading text = .ok settings ↔
          (∃ policy, Gives SkipPolicy.ofReading (valuesOf "mismatch_policy" named) policy ∧
            settings.policy = policy.getD .report) ∧
          ∃ mode, Gives ScanMode.ofReading (valuesOf "scan_mode" named) mode ∧ settings.mode = mode.getD .tags) ∧
        (∀ token : Token, decode Token.ofReading text = .ok token ↔
          Gives Token.Kind.ofReading (valuesOf "kind" named) (some token.kind) ∧
            Gives decodeText (valuesOf "name" named) (some token.name) ∧
            Gives decodeLine (valuesOf "line" named) (some token.line)) ∧
        ∀ finding : Finding, decode Finding.ofReading text = .ok finding ↔
          Gives Finding.Kind.ofReading (valuesOf "kind" named) (some finding.kind) ∧
            Gives decodeLine (valuesOf "line" named) (some finding.line) ∧
            Gives decodeText (valuesOf "detail" named) (some finding.detail)) ∧
      (∀ otherText others, IsObject otherText others →
        (SameMembers ["mismatch_policy", "scan_mode"] named others →
          (decode Settings.ofReading text).toOption = (decode Settings.ofReading otherText).toOption) ∧
        (SameMembers ["kind", "name", "line"] named others →
          (decode Token.ofReading text).toOption = (decode Token.ofReading otherText).toOption) ∧
        (SameMembers ["kind", "line", "detail"] named others →
          (decode Finding.ofReading text).toOption = (decode Finding.ofReading otherText).toOption)) ∧
      ∀ listText items, Spelled (.value (.list items none)) listText → items.length ≤ 2 →
        named = ["mismatch_policy", "scan_mode"].zip items →
        decode Settings.ofReading listText = decode Settings.ofReading text := by
  refine ⟨⟨?_, ?_, ?_⟩, ⟨?_, ?_, ?_⟩, ?_, ?_⟩
  · refine (exists_decode_object_iff Settings.lawful_record Settings.requires_record h).trans ?_
    simp [Settings.record]
  · exact exists_decode_triple_iff Token.names_nodup h
  · exact exists_decode_triple_iff Finding.names_nodup h
  · intro settings
    exact Settings.decode_object_iff h
  · intro token
    exact Token.decode_object_iff h
  · intro finding
    exact Finding.decode_object_iff h
  · intro otherText others hother
    refine ⟨?_, ?_, ?_⟩
    · exact decode_eq_of_sameMembers Settings.lawful_record h hother
    · exact decode_eq_of_sameMembers Token.lawful_record h hother
    · exact decode_eq_of_sameMembers Finding.lawful_record h hother
  · rintro listText items hlist hlength rfl
    exact Settings.decode_list_eq hlist hlength h

/-- An escape in a known name, and an unknown name that is there twice, once with a number that no floating-point number
stands for; the same settings with the unknown member elsewhere; a word that is said by an object, in settings that are
given as an object and as a list; and a token and a finding, with their members in another order. -/
theorem objects_that_load_escaped :
    let text := "\x7b\"sc\\u0061n_mode\" :\"lines\",\"x\":[1e400,\x7b\x7d],\"x\":null\x7d".toList
    let big : Numeral := ⟨false, ['1'], none, some (false, ['4', '0', '0'])⟩
    let named : Named :=
      [("scan_mode", .text (.ofText "lines")), ("x", .list [.number big, .object [] none] none), ("x", .null)]
    let otherText := "\x7b\"y\":0,\"scan_mode\":\"lines\"\x7d".toList
    let others : Named := [("y", .number (.ofNat 0)), ("scan_mode", .text (.ofText "lines"))]
    let objectText := "\x7b\"mismatch_policy\":\x7b\"extras\":null\x7d\x7d".toList
    let listText := "[\x7b\"extras\":null\x7d]".toList
    let items : List Reading := [.object [(.text (.ofText "extras"), .null)] none]
    let tokenText := "\x7b\"line\":3,\"name\":\"a\",\"kind\":\"end\"\x7d".toList
    let tokenMembers : Named :=
      [("line", .number (.ofNat 3)), ("name", .text (.ofText "a")), ("kind", .text (.ofText "end"))]
    let findingText := "\x7b\"detail\":\"a\",\"line\":3,\"kind\":\"extra\"\x7d".toList
    let findingMembers : Named :=
      [("detail", .text (.ofText "a")), ("line", .number (.ofNat 3)), ("kind", .text (.ofText "extra"))]
    (IsObject text named ∧ decode Settings.ofReading text = .ok ⟨.report, .lines⟩ ∧
        ¬ ∃ token, decode Token.ofReading text = .ok token) ∧
      (IsObject otherText others ∧ SameMembers ["mismatch_policy", "scan_mode"] named others ∧
        decode Settings.ofReading otherText = .ok ⟨.report, .lines⟩) ∧
      (IsObject objectText (["mismatch_policy", "scan_mode"].zip items) ∧
        decode Settings.ofReading objectText = .ok ⟨.extras, .tags⟩) ∧
      (Spelled (.value (.list items none)) listText ∧ items.length ≤ 2 ∧
        decode Settings.ofReading listText = decode Settings.ofReading objectText) ∧
      (IsObject tokenText tokenMembers ∧ decode Token.ofReading tokenText = .ok ⟨.closing, "a", 3⟩) ∧
      IsObject findingText findingMembers ∧ decode Finding.ofReading findingText = .ok ⟨.extra, 3, "a"⟩ := by
  intro text big named otherText others objectText listText items tokenText tokenMembers findingText findingMembers
  have hword (s : String) : (Key.text (.ofText s)).word = .ok s := QuotedText.value_ofText s
  have hkey (s : String) : SpelledKey (.text (.ofText s)) ([] ++ '"' :: (s.toList.flatMap writeChar ++ '"' :: [])) :=
    .intro (List.forall_mem_nil _) (QuotedText.spelled_writeChars s.toList) (List.forall_mem_nil _)
  have hwritten (s : String) : Spelled (.value (.text (.ofText s))) (writeText s) :=
    .text (QuotedText.spelled_writeChars s.toList)
  have hobject : IsObject text named := by
    have hcharacters : QuotedText.Spelled (QuotedText.ofText "scan_mode").units
        ("sc".toList.flatMap writeChar ++
          '\\' :: 'u' :: '0' :: '0' :: '6' :: '1' :: "n_mode".toList.flatMap writeChar) := by
      have hletter : fourHexDigits? '0' '0' '6' '1' = some 0x61 := by decide
      have hunits : (QuotedText.ofText "scan_mode").units =
          "sc".toList.map .char ++ .ofNat 0x61 :: "n_mode".toList.map .char := by decide +kernel
      rw [hunits]
      exact (QuotedText.spelled_writeChars _).append (.hexadecimal hletter (QuotedText.spelled_writeChars _))
    have hblank : ∀ c ∈ [' '], isBlank c = true := List.forall_mem_singleton.2 rfl
    have hescaped : SpelledKey (.text (.ofText "scan_mode")) _ :=
      .intro (List.forall_mem_nil _) hcharacters hblank
    have hbig : Numeral.SpelledUnsigned false big (['1'] ++ ([] ++ 'e' :: ([] ++ ['4', '0', '0']))) :=
      .intro ⟨by simp, by simp⟩ (fun h => absurd h (by decide)) .none (.some (.inl rfl) .none ⟨by simp, by simp⟩)
    have hlist : Spelled (.value (.list [.number big, .object [] none] none)) _ :=
      .list (.item (.number (.positive hbig)) (.lastItem (.emptyObject (List.forall_mem_nil _))))
    have hspelled := Spelled.object
      (.member hescaped (hwritten "lines") (.member (hkey "x") hlist (.lastMember (hkey "x") .null)))
    refine ⟨_, Eq.mp (congrArg (Spelled _) (by decide +kernel)) hspelled, ?_⟩
    exact .cons ⟨hword _, rfl⟩ (.cons ⟨hword _, rfl⟩ (.cons ⟨hword _, rfl⟩ .nil))
  have hother : IsObject otherText others := by
    have hwrite : otherText =
        ((Value.object [("y", .natural 0), ("scan_mode", .text "lines")]).render .compact).toList := by decide +kernel
    rw [hwrite]
    exact isObject_render .compact _
  have htokenObject : IsObject tokenText tokenMembers := by
    have hwrite : tokenText = ((Value.object
        [("line", .natural 3), ("name", .text "a"), ("kind", .text "end")]).render .compact).toList := by decide +kernel
    rw [hwrite]
    exact isObject_render .compact _
  have hfindingObject : IsObject findingText findingMembers := by
    have hwrite : findingText = ((Value.object
        [("detail", .text "a"), ("line", .natural 3), ("kind", .text "extra")]).render .compact).toList := by
      decide +kernel
    rw [hwrite]
    exact isObject_render .compact _
  have hkeyed : Spelled (.value (.object [(.text (.ofText "extras"), .null)] none)) _ :=
    .object (.lastMember (hkey "extras") .null)
  have hextras : IsObject objectText (["mismatch_policy", "scan_mode"].zip items) := by
    have hspelled := Spelled.object (.lastMember (hkey "mismatch_policy") hkeyed)
    refine ⟨_, Eq.mp (congrArg (Spelled _) (by decide +kernel)) hspelled, ?_⟩
    exact .cons ⟨hword _, rfl⟩ .nil
  have hlist : Spelled (.value (.list items none)) listText := by
    have hspelled := Spelled.list (.lastItem hkeyed)
    exact Eq.mp (congrArg (Spelled _) (by decide +kernel)) hspelled
  have hpolicy : SkipPolicy.ofReading (.object [(.text (.ofText "extras"), .null)] none) = .ok .extras :=
    SkipPolicy.ofReading_eq_ok_iff.2 (.keyed (hword "extras"))
  have hnone : valuesOf "mismatch_policy" named = [] := rfl
  have hkind : valuesOf "kind" named = [] := rfl
  have hmode : valuesOf "scan_mode" named = [.text (.ofText "lines")] := rfl
  have hlines : ScanMode.ofReading (.text (.ofText "lines")) = .ok .lines :=
    ScanMode.ofReading_eq_ok_iff.2 (saysWord_reading "lines")
  obtain ⟨⟨-, htoken, -⟩, ⟨hsettings, -, -⟩, hsame, -⟩ := objects_that_load hobject
  have hloaded : decode Settings.ofReading text = .ok ⟨.report, .lines⟩ := by
    rw [hsettings, hnone, hmode]
    exact ⟨⟨none, .absent, rfl⟩, some .lines, .present hlines, rfl⟩
  have hmembers : SameMembers ["mismatch_policy", "scan_mode"] named others := List.Perm.refl _
  refine ⟨⟨hobject, hloaded, ?_⟩, ⟨hother, hmembers, ?_⟩, ⟨hextras, ?_⟩, ⟨hlist, by decide, ?_⟩, ⟨htokenObject, ?_⟩,
    hfindingObject, ?_⟩
  · intro hany
    exact (htoken.1 hany).2 "kind" List.mem_cons_self hkind
  · rw [← toOption_eq_some_iff, ← (hsame otherText others hother).1 hmembers, hloaded]
    rfl
  · obtain ⟨-, ⟨hsettings, -, -⟩, -, -⟩ := objects_that_load hextras
    exact (hsettings _).2 ⟨⟨some .extras, .present hpolicy, rfl⟩, none, .absent, rfl⟩
  · obtain ⟨-, -, -, hlists⟩ := objects_that_load hextras
    exact hlists listText items hlist (by decide) rfl
  · obtain ⟨-, ⟨-, htokens, -⟩, -, -⟩ := objects_that_load htokenObject
    have hkind := Token.Kind.ofReading_eq_ok_iff.2 (saysWord_reading (Token.Kind.closing).word)
    exact (htokens ⟨.closing, "a", 3⟩).2
      ⟨.present hkind, .present (decodeText_reading "a"), .present (decodeNatural_reading (by decide))⟩
  · obtain ⟨-, ⟨-, -, hfindings⟩, -, -⟩ := objects_that_load hfindingObject
    have hkind := Finding.Kind.ofReading_eq_ok_iff.2 (saysWord_reading (Finding.Kind.extra).word)
    exact (hfindings ⟨.extra, 3, "a"⟩).2
      ⟨.present hkind, .present (decodeNatural_reading (by decide)), .present (decodeText_reading "a")⟩

end TagNesting
