import TagNesting.Proofs.Checker.Subjects
import TagNesting.Proofs.CommandLine.Arguments
import TagNesting.Proofs.CommandLine.Document
import TagNesting.Proofs.Finding.Json
import TagNesting.Proofs.Finding.Report
import TagNesting.Proofs.Scanner.Rescan

/-!
# `Proofs.CommandLine.Check` — what a check prints, and how it ends

A check of a document that can be read, with settings that can be loaded (`Checks`), ends with the code that tells
whether there are findings, and prints them. What is printed says what the findings are: as JSON because written
values are read back, as text because a line tells its finding and no finding goes beyond its line. For that, the
names of tokens must not go beyond a line, and they do not since a line of the document is all that a scan looks at.

Any other check ends in a complaint and prints nothing (`run_of_not_checks`).
-/

namespace TagNesting

open Text

/-! ## The findings of a document -/

section Findings

variable {settings : Settings} {text : List Char} {finding : Finding}

/-- No finding goes beyond a line. -/
theorem newline_not_mem_detail (h : finding ∈ check settings text) : '\n' ∉ finding.detail.toList := by
  obtain ⟨token, htoken, htag⟩ := exists_token_of_mem_findings h
  have hname : token.name = finding.detail := congrArg Tag.name htag
  rw [← hname]
  exact newline_not_mem_name_of_mem_scan htoken

/-- Findings are about lines of the document. -/
theorem line_le_of_mem_check (h : finding ∈ check settings text) : finding.line ≤ text.count '\n' + 1 := by
  obtain ⟨token, htoken, htag⟩ := exists_token_of_mem_findings h
  have hline : token.line = finding.line := congrArg Tag.line htag
  rw [← hline]
  exact line_le_lines_of_mem_scan htoken

end Findings

namespace CommandLine

open Text.Utf8 Json

variable {lookup : Lookup} {arguments : List String} {path : String} {format : Format} {config : Option String}
  {policy : Option SkipPolicy} {mode : Option ScanMode} {settings base : Settings} {bytes : List UInt8}

/-! ## Settings -/

/-- The settings that the file of a command line holds. They are the standard ones if it names no file. -/
inductive HoldsSettings (lookup : Lookup) : Option String → Settings → Prop where
  | standard : HoldsSettings lookup none {}
  | file {path : String} {bytes : List UInt8} {settings : Settings} (hfile : lookup path = .file bytes)
      (hload : Settings.load (some bytes) = .ok settings) : HoldsSettings lookup (some path) settings

/-- Settings with those in their place that a command line gives besides. -/
def override (base : Settings) (policy : Option SkipPolicy) (mode : Option ScanMode) : Settings :=
  { policy := policy.getD base.policy, mode := mode.getD base.mode }

theorem resolveSettings_of_holds (h : HoldsSettings lookup config base) (policy : Option SkipPolicy)
    (mode : Option ScanMode) : resolveSettings lookup config policy mode = .ok (override base policy mode) := by
  cases h with
  | standard => rfl
  | file hfile hload =>
      simp only [resolveSettings, settingsAt, hfile, hload]
      rfl

/-- Where no settings are held, a file is named, and it is complained about. -/
theorem resolveSettings_of_not_holds (h : ∀ base, ¬ HoldsSettings lookup config base) (policy : Option SkipPolicy)
    (mode : Option ScanMode) :
    ∃ path, resolveSettings lookup config policy mode = .error (.noSettings path) := by
  cases config with
  | none => exact absurd .standard (h {})
  | some path =>
      refine ⟨path, ?_⟩
      have hsettings : settingsAt lookup path = .error (.noSettings path) := by
        unfold settingsAt
        cases hfile : lookup path with
        | nothing => rfl
        | unreadable => rfl
        | file bytes =>
            cases hload : Settings.load (some bytes) with
            | ok base => exact absurd (.file hfile hload) (h base)
            | error problem => exact congrArg (Except.mapError fun _ => Complaint.noSettings path) hload
      simp only [resolveSettings, hsettings]
      rfl

/-! ## Runs -/

/-- The command line asks for a check of a document that can be read, with settings that can be loaded. -/
inductive Checks (lookup : Lookup) (arguments : List String) (format : Format) : Settings → List UInt8 → Prop where
  | intro {path : String} {config : Option String} {policy : Option SkipPolicy} {mode : Option ScanMode}
      {base : Settings} {bytes : List UInt8}
      (hrequest : parse? arguments = some (.check path format config policy mode))
      (hsettings : HoldsSettings lookup config base) (hdocument : lookup path = .file bytes) :
      Checks lookup arguments format (override base policy mode) bytes

section Runs

variable {request : Request}

theorem run_of_ok {outcome : Outcome} (hrequest : parse? arguments = some request)
    (hrun : request.run lookup = .ok outcome) : run lookup arguments = outcome := by
  simp only [run, hrequest, hrun]

theorem run_of_error {complaint : Complaint} (hrequest : parse? arguments = some request)
    (hrun : request.run lookup = .error complaint) : run lookup arguments = complaint.outcome := by
  simp only [run, hrequest, hrun]

end Runs

/-- **A check that can be made prints the findings**, and its code tells whether there are any. -/
theorem run_of_checks (h : Checks lookup arguments format settings bytes) :
    (run lookup arguments).code = (if check settings (decodeLossy bytes) = [] then 0 else 1) ∧
      (run lookup arguments).output = printFindings format (check settings (decodeLossy bytes)) := by
  cases h with
  | @intro path config policy mode base bytes hrequest hsettings hdocument =>
      have hrun : run lookup arguments =
          { code := if (check (override base policy mode) (decodeLossy bytes)).isEmpty then 0 else 1,
            output := printFindings format (check (override base policy mode) (decodeLossy bytes)) } := by
        apply run_of_ok hrequest
        simp only [Request.run, isMissing, document, hdocument, resolveSettings_of_holds hsettings, documentTokens_eq]
        rfl
      rw [hrun]
      simp only [List.isEmpty_iff, and_self]

/-- **A check that cannot be made prints nothing.** -/
theorem run_of_not_checks (hrequest : parse? arguments = some (.check path format config policy mode))
    (h : lookup path = .nothing ∨ (∀ base, ¬ HoldsSettings lookup config base) ∨ lookup path = .unreadable) :
    (run lookup arguments).output = "" ∧
      (run lookup arguments).code = if lookup path = .nothing then 2 else 1 := by
  by_cases hmissing : lookup path = .nothing
  · have hrun : run lookup arguments = (Complaint.noDocument path).outcome := by
      apply run_of_error hrequest
      simp only [Request.run, isMissing, hmissing]
      rfl
    rw [hrun, if_pos hmissing]
    exact ⟨rfl, rfl⟩
  · rw [if_neg hmissing]
    by_cases hsettings : ∃ base, HoldsSettings lookup config base
    · -- the settings are there, so it is the document that is not
      obtain ⟨base, hbase⟩ := hsettings
      have hunreadable : lookup path = .unreadable := by
        rcases h with h | h | h
        · exact absurd h hmissing
        · exact absurd hbase (h base)
        · exact h
      have hrun : run lookup arguments = (Complaint.unreadable path).outcome := by
        apply run_of_error hrequest
        simp only [Request.run, isMissing, document, hunreadable, resolveSettings_of_holds hbase]
        rfl
      rw [hrun]
      exact ⟨rfl, rfl⟩
    · obtain ⟨file, hresolve⟩ := resolveSettings_of_not_holds (not_exists.1 hsettings) policy mode
      have hrun : run lookup arguments = (Complaint.noSettings file).outcome := by
        apply run_of_error hrequest
        simp only [Request.run, isMissing, hmissing, hresolve]
        rfl
      rw [hrun]
      exact ⟨rfl, rfl⟩

/-- A check either can be made, or it fails in one of three ways. -/
theorem checks_or_not (hrequest : parse? arguments = some (.check path format config policy mode)) :
    (∃ settings bytes, Checks lookup arguments format settings bytes) ∨
      lookup path = .nothing ∨ (∀ base, ¬ HoldsSettings lookup config base) ∨ lookup path = .unreadable := by
  by_cases hsettings : ∃ base, HoldsSettings lookup config base
  · obtain ⟨base, hbase⟩ := hsettings
    cases hdocument : lookup path with
    | nothing => exact .inr (.inl rfl)
    | unreadable => exact .inr (.inr (.inr rfl))
    | file bytes => exact .inl ⟨_, _, .intro hrequest hbase hdocument⟩
  · exact .inr (.inr (.inl (not_exists.1 hsettings)))

/-- Only a check prints something and ends with code 1. -/
theorem exists_check_of_output (hcode : (run lookup arguments).code = 1) (houtput : (run lookup arguments).output ≠ "") :
    ∃ path format config policy mode, parse? arguments = some (.check path format config policy mode) := by
  cases hrequest : parse? arguments with
  | none =>
      have hrun : run lookup arguments = Complaint.usage.outcome := by
        rw [run, hrequest]
      rw [hrun] at houtput
      exact absurd rfl houtput
  | some request =>
      cases request with
      | check path format config policy mode => exact ⟨path, format, config, policy, mode, rfl⟩
      | tokens path mode =>
          cases hdocument : document lookup path with
          | error complaint =>
              have hrun : run lookup arguments = complaint.outcome := by
                apply run_of_error hrequest
                simp only [Request.run, hdocument]
                rfl
              rw [hrun] at houtput
              exact absurd rfl houtput
          | ok bytes =>
              have hrun : (run lookup arguments).code = 0 := by
                rw [run, hrequest]
                simp only [Request.run, hdocument]
                rfl
              rw [hrun] at hcode
              exact absurd hcode (by decide)

/-! ## What is printed -/

/-- Printed as text, findings are the lines of their log below the banner. -/
theorem splitLines_printFindings {findings : List Finding} (h : ∀ f ∈ findings, '\n' ∉ f.detail.toList) :
    splitLines (printFindings .text findings).toList =
      ((banner :: summary findings).map String.toList, []) := by
  have htext : (printFindings .text findings).toList =
      joinLines ((banner :: summary findings).map String.toList) := by
    show (String.join ((banner :: summary findings).map (· ++ "\n"))).toList = _
    rw [String.toList_join, joinLines, List.flatMap_map, List.flatMap_map]
    simp only [String.toList_append]
    rfl
  rw [htext, splitLines_joinLines]
  intro line hline
  obtain ⟨printed, hprinted, rfl⟩ := List.mem_map.1 hline
  rcases List.mem_cons.1 hprinted with rfl | hsummary
  · decide
  · exact newline_not_mem_summary h printed hsummary

/-- Printed alike, they are the same findings. -/
theorem eq_of_printFindings_eq {first second : List Finding} (hfirst : ∀ f ∈ first, '\n' ∉ f.detail.toList)
    (hsecond : ∀ f ∈ second, '\n' ∉ f.detail.toList) (h : printFindings .text first = printFindings .text second) :
    first = second := by
  have hsplit := splitLines_printFindings hfirst
  rw [h, splitLines_printFindings hsecond] at hsplit
  have hlines : banner :: summary second = banner :: summary first :=
    (List.map_inj_right fun _ _ heq => String.toList_injective heq).1 (congrArg Prod.fst hsplit)
  exact (eq_of_summary_eq (List.cons.inj hlines).2).symm

/-- Printed as JSON, they can be read back, with the line feed behind them or without it. -/
theorem decode_printFindings {findings : List Finding} (h : ∀ f ∈ findings, f.line < lineBound) :
    let value := Value.list (findings.map Finding.toValue)
    decode (decodeList Finding.ofReading) value.indented.toList = .ok findings ∧
      decode (decodeList Finding.ofReading) (printFindings .json findings).toList = .ok findings := by
  intro value
  have hdecoded : decodeList Finding.ofReading value.reading = .ok findings :=
    Finding.faithful.list.reads_back findings h
  have hprinted : (printFindings .json findings).toList = value.write .indented 0 ++ ['\n'] := by
    show (value.indented ++ "\n").toList = _
    rw [String.toList_append, Value.indented, Value.render, String.toList_ofList]
    rfl
  refine ⟨(decode_render _ .indented value).trans hdecoded, ?_⟩
  rw [hprinted, decode_write _ _ _ (by simp [isBlank_iff]), hdecoded]

/-- **What a check prints, and how it ends.** If the document can be read and the settings can be loaded, the code is 0
if there are no findings and 1 if there are some. What is printed as JSON is a text with a line feed behind it, which
is decoded to the findings, if the lines of the document are few enough to be numbered at all. What is printed as text
are the banner and the lines of the summary, one for each finding or the one that says there are none, and no other
run prints the same for other findings. In all other cases nothing is printed; so if something is, code 1 means
findings. -/
theorem run_check_reports (lookup : Lookup) (arguments : List String) :
    (∀ format settings bytes, Checks lookup arguments format settings bytes →
      let text := decodeLossy bytes
      let found := check settings text
      let outcome := run lookup arguments
      (outcome.code = if found = [] then 0 else 1) ∧
        (format = .json → ∃ json, outcome.output = json ++ "\n" ∧ (text.count '\n' + 1 < lineBound →
          decode (decodeList Finding.ofReading) json.toList = .ok found ∧
            decode (decodeList Finding.ofReading) outcome.output.toList = .ok found)) ∧
        (format = .text →
          splitLines outcome.output.toList = ((banner :: summary found).map String.toList, []) ∧
            (summary found).length = max 1 found.length ∧
            ∀ lookup' arguments' settings' bytes', Checks lookup' arguments' .text settings' bytes' →
              (run lookup' arguments').output = outcome.output → check settings' (decodeLossy bytes') = found)) ∧
      (∀ path format config policy mode, parse? arguments = some (.check path format config policy mode) →
        (lookup path = .nothing ∨ (∀ base, ¬ HoldsSettings lookup config base) ∨ lookup path = .unreadable) →
        (run lookup arguments).output = "" ∧
          (run lookup arguments).code = if lookup path = .nothing then 2 else 1) ∧
      ((run lookup arguments).code = 1 → (run lookup arguments).output ≠ "" →
        ∃ format settings bytes, Checks lookup arguments format settings bytes ∧
          check settings (decodeLossy bytes) ≠ []) := by
  refine ⟨?_, ?_, ?_⟩
  · intro format settings bytes h text found outcome
    obtain ⟨hcode, houtput⟩ := run_of_checks h
    refine ⟨hcode, ?_, ?_⟩
    · rintro rfl
      refine ⟨(Value.list (found.map Finding.toValue)).indented, houtput, ?_⟩
      intro hlines
      rw [houtput]
      apply decode_printFindings
      intro f hf
      have hline := line_le_of_mem_check hf
      omega
    · rintro rfl
      have hnewline : ∀ f ∈ found, '\n' ∉ f.detail.toList := fun f hf => newline_not_mem_detail hf
      rw [houtput]
      refine ⟨splitLines_printFindings hnewline, length_summary found, ?_⟩
      intro lookup' arguments' settings' bytes' h' heq
      rw [(run_of_checks h').2] at heq
      exact eq_of_printFindings_eq (fun f hf => newline_not_mem_detail hf) hnewline heq
  · intro path format config policy mode hrequest hfails
    exact run_of_not_checks hrequest hfails
  · intro hcode houtput
    obtain ⟨path, format, config, policy, mode, hrequest⟩ := exists_check_of_output hcode houtput
    rcases checks_or_not hrequest with ⟨settings, bytes, h⟩ | hfails
    · refine ⟨format, settings, bytes, h, ?_⟩
      intro hnone
      rw [(run_of_checks h).1, if_pos hnone] at hcode
      exact absurd hcode (by decide)
    · exact absurd (run_of_not_checks hrequest hfails).1 houtput

/-- A tag that is never closed, and another behind a text, which is no tag of its line. The settings come from a file with
one of them, which is used as it is for one run and overridden for the other; the mode is chosen on the command line. And
a document that is not there. -/
theorem run_check_reports_unclosed :
    let text := "<a>\nsee <b>\n<c>\n</a>\n".toList
    let settings := "\x7b\"mismatch_policy\":\"extras\"\x7d".toList
    let lookup : Lookup := fun path =>
      if path = "a.xml" then .file (encode text) else if path = "c.json" then .file (encode settings) else .nothing
    let asText := ["check", "a.xml", "--config=c.json", "--mode", "lines"]
    let asJson := ["check", "--mode=lines", "--format", "json", "--policy=report", "a.xml", "--config", "c.json"]
    let missing := ["check", "b.xml"]
    Checks lookup asText .text ⟨.extras, .lines⟩ (encode text) ∧
      (run lookup asText).code = 1 ∧
      splitLines (run lookup asText).output.toList =
        ([banner.toList, "Error at line 3: extra element c".toList], []) ∧
      Checks lookup asJson .json ⟨.report, .lines⟩ (encode text) ∧
      decode (decodeList Finding.ofReading) (run lookup asJson).output.toList = .ok [⟨.mismatch, 3, "c"⟩] ∧
      (run lookup missing).output = "" ∧ (run lookup missing).code = 2 := by
  intro text settings lookup asText asJson missing
  have hdocument : lookup "a.xml" = .file (encode text) := rfl
  have hload : Settings.load (some (encode settings)) = .ok ⟨.extras, .tags⟩ := by
    have hdecoded : decode Settings.ofReading settings = .ok ⟨.extras, .tags⟩ :=
      eq_ok_of_toOption_eq_some (by decide +kernel)
    exact Settings.load_eq_ok_iff.2 ⟨settings, rfl, hdecoded⟩
  have hsettings : HoldsSettings lookup (some "c.json") ⟨.extras, .tags⟩ := .file rfl hload
  have htext : parse? asText = some (.check "a.xml" .text (some "c.json") none (some .lines)) := by
    have hlists : Lists asText.tail { options := [("config", "c.json"), ("mode", "lines")], files := ["a.xml"] } :=
      .file rfl (.joined "config" "c.json" (.apart "mode" rfl .nil))
    exact parse?_check none (some "c.json") none (some .lines) hlists rfl (by decide) (by decide) (by decide)
  have hjson : parse? asJson = some (.check "a.xml" .json (some "c.json") (some .report) (some .lines)) := by
    have hlists : Lists asJson.tail
        { options := [("mode", "lines"), ("format", "json"), ("policy", "report"), ("config", "c.json")]
          files := ["a.xml"] } :=
      .joined "mode" "lines" (.apart "format" rfl (.joined "policy" "report" (.file rfl (.apart "config" rfl .nil))))
    exact parse?_check (some .json) (some "c.json") (some .report) (some .lines) hlists rfl (by decide) (by decide)
      (by decide)
  have hchecksText : Checks lookup asText .text ⟨.extras, .lines⟩ (encode text) := .intro htext hsettings hdocument
  have hchecksJson : Checks lookup asJson .json ⟨.report, .lines⟩ (encode text) := .intro hjson hsettings hdocument
  have hextra : check ⟨.extras, .lines⟩ (decodeLossy (encode text)) = [⟨.extra, 3, "c"⟩] := by
    rw [decodeLossy_encode]
    decide +kernel
  have hmismatch : check ⟨.report, .lines⟩ (decodeLossy (encode text)) = [⟨.mismatch, 3, "c"⟩] := by
    rw [decodeLossy_encode]
    decide +kernel
  obtain ⟨hcode, -, houtput⟩ := (run_check_reports lookup asText).1 .text _ _ hchecksText
  obtain ⟨-, hdecoded, -⟩ := (run_check_reports lookup asJson).1 .json _ _ hchecksJson
  obtain ⟨json, -, hlines⟩ := hdecoded rfl
  rw [hextra] at hcode houtput
  rw [hmismatch] at hlines
  have hmissing : parse? missing = some (.check "b.xml" .text none none none) :=
    parse?_check none none none none (.file rfl .nil) rfl (by decide) (by decide) (by decide)
  exact ⟨hchecksText, hcode, (houtput rfl).1, hchecksJson, (hlines (by decide +kernel)).2,
    (run_check_reports lookup missing).2.1 _ _ _ _ _ hmissing (.inl rfl)⟩

end CommandLine

end TagNesting
