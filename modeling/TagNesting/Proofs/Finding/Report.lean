import TagNesting.Finding
import TagNesting.Proofs.Json.Numeral

/-!
# `Proofs.Finding.Report` — an error log can be read back

A finding is reported on a line of its own, and the line says everything about it. The line number is told by the
digits behind the heading. The message that follows begins with words of which none are the beginning of the words of
another kind, so they tell the kind, whatever the detail is (`Kind.eq_of_opening`); and the kind tells how many
characters stand before the detail and behind it.

A log without findings has a line that no finding is reported by. So the lines of a log tell which findings it is
about, each finding at its own place (`summary_tells_findings`).
-/

namespace TagNesting

namespace Finding

/-! ## What stands around the detail -/

/-- The words before the detail. -/
def Kind.opening : Kind → String
  | .missingStart => "missing start tag for </"
  | .missingEnd => "unclosed tag <"
  | .mismatch => "mismatched tag <"
  | .extra => "extra element "
  | .invalidFormat => "invalid tag format "

/-- What stands behind the detail. -/
def Kind.ending : Kind → String
  | .missingStart | .missingEnd | .mismatch => ">"
  | .extra | .invalidFormat => ""

/-- The words of one kind are not the beginning of those of another. -/
theorem Kind.eq_of_opening {kind other : Kind} (h : kind.opening.toList <+: other.opening.toList) : kind = other := by
  revert h
  cases kind <;> cases other <;> decide

theorem message_eq (f : Finding) : f.message = f.kind.opening ++ f.detail ++ f.kind.ending := by
  obtain ⟨kind, line, detail⟩ := f
  cases kind with
  | missingStart => rfl
  | missingEnd => rfl
  | mismatch => rfl
  | extra => exact String.append_empty.symm
  | invalidFormat => exact String.append_empty.symm

/-- **A message tells the kind and the detail.** -/
theorem eq_of_message_eq {f g : Finding} (h : f.message = g.message) : f.kind = g.kind ∧ f.detail = g.detail := by
  have htext := congrArg String.toList h
  simp only [message_eq, String.toList_append, List.append_assoc] at htext
  -- both openings begin the same text, so one of them begins with the other
  have hf : f.kind.opening.toList <+: g.kind.opening.toList ++ (g.detail.toList ++ g.kind.ending.toList) := by
    rw [← htext]
    exact List.prefix_append _ _
  have hkind : f.kind = g.kind := by
    rcases List.prefix_or_prefix_of_prefix hf (List.prefix_append _ _) with hfirst | hsecond
    · exact Kind.eq_of_opening hfirst
    · exact (Kind.eq_of_opening hsecond).symm
  rw [hkind] at htext
  exact ⟨hkind, String.toList_injective (List.append_cancel_right (List.append_cancel_left htext))⟩

/-! ## The line of a finding -/

theorem toList_render (f : Finding) :
    f.render.toList = "Error at line ".toList ++ (Nat.toDigits 10 f.line ++ ':' :: ' ' :: f.message.toList) := by
  show ("Error at line " ++ toString f.line ++ ": " ++ f.message).toList = _
  rw [Nat.toString_eq_ofList_toDigits]
  simp only [String.toList_append, String.toList_ofList, List.append_assoc]
  rfl

/-- The digits of a number are those up to the colon. -/
theorem eq_of_toDigits_colon {m n : Nat} {first second : List Char}
    (h : Nat.toDigits 10 m ++ ':' :: first = Nat.toDigits 10 n ++ ':' :: second) : m = n ∧ first = second := by
  have hdigit : ∀ n, ∀ c ∈ Nat.toDigits 10 n, c.isDigit = true := fun _ => Json.Numeral.isDigit_of_mem_toDigits
  have hcolon : ∀ text : List Char, ∀ c ∈ (':' :: text).head?, c.isDigit = false := by
    intro text c hc
    obtain rfl := Option.some.inj hc
    rfl
  have hdigits : Nat.toDigits 10 m = Nat.toDigits 10 n := by
    have htake := congrArg (List.takeWhile Char.isDigit) h
    rwa [Text.takeWhile_stop (hdigit m) (hcolon first), Text.takeWhile_stop (hdigit n) (hcolon second)] at htake
  have hnumber : m = n := by
    rw [← Nat.ofDigitChars_ten_toDigits (n := m), hdigits, Nat.ofDigitChars_ten_toDigits]
  rw [hdigits] at h
  exact ⟨hnumber, (List.cons.inj (List.append_cancel_left h)).2⟩

/-- **A line tells the finding.** -/
theorem render_injective : Function.Injective render := by
  intro f g h
  have htext := congrArg String.toList h
  rw [toList_render, toList_render, List.append_cancel_left_eq] at htext
  obtain ⟨hline, hrest⟩ := eq_of_toDigits_colon htext
  have hmessage : f.message = g.message := String.toList_injective (List.cons.inj hrest).2
  obtain ⟨hkind, hdetail⟩ := eq_of_message_eq hmessage
  obtain ⟨kind, line, detail⟩ := f
  simp only at hkind hline hdetail
  rw [hkind, hline, hdetail]

/-- It is one line, if the detail is. -/
theorem newline_not_mem_render {f : Finding} (h : '\n' ∉ f.detail.toList) : '\n' ∉ f.render.toList := by
  have hdigits : '\n' ∉ Nat.toDigits 10 f.line := by
    intro hmem
    exact absurd (Json.Numeral.isDigit_of_mem_toDigits _ hmem) (by decide)
  have hkind : '\n' ∉ f.kind.opening.toList ∧ '\n' ∉ f.kind.ending.toList := by
    cases f.kind <;> decide
  rw [toList_render, message_eq]
  simp [hdigits, hkind, h]

/-- No finding is reported as a log without findings is. -/
theorem render_ne_noErrors (f : Finding) : f.render ≠ noErrors := by
  intro h
  have hfirst : some 'E' = some 'N' := by
    have htext := congrArg (fun text : String => text.toList.head?) h
    simp only [toList_render] at htext
    exact htext
  exact absurd hfirst (by decide)

end Finding

/-! ## The lines of a log -/

/-- **The lines of a log tell its findings.** -/
theorem eq_of_summary_eq {first second : List Finding} (h : summary first = summary second) : first = second := by
  cases first with
  | nil =>
      cases second with
      | nil => rfl
      | cons g second => exact absurd (List.cons.inj h).1.symm g.render_ne_noErrors
  | cons f first =>
      cases second with
      | nil => exact absurd (List.cons.inj h).1 f.render_ne_noErrors
      | cons g second => exact (List.map_inj_right fun _ _ heq => Finding.render_injective heq).1 h

theorem length_summary (findings : List Finding) : (summary findings).length = max 1 findings.length := by
  cases findings with
  | nil => rfl
  | cons f findings =>
      show ((f :: findings).map Finding.render).length = _
      rw [List.length_map, List.length_cons]
      omega

/-- Each line of a log is one line, if all details are. -/
theorem newline_not_mem_summary {findings : List Finding} (h : ∀ f ∈ findings, '\n' ∉ f.detail.toList) :
    ∀ line ∈ summary findings, '\n' ∉ line.toList := by
  intro line hline
  cases findings with
  | nil =>
      obtain rfl := List.mem_singleton.1 hline
      decide
  | cons f findings =>
      obtain ⟨g, hg, rfl⟩ := List.mem_map.1 hline
      exact Finding.newline_not_mem_render (h g hg)

/-- The line at a place tells the finding at that place. -/
theorem getElem?_report_eq_some_iff {findings : List Finding} {place : Nat} {f : Finding} :
    (report findings)[place]? = some f.render ↔ findings[place]? = some f := by
  rw [report, List.getElem?_map, Option.map_eq_some_iff]
  constructor
  · rintro ⟨g, hg, hrender⟩
    rwa [← Finding.render_injective hrender]
  · intro hf
    exact ⟨f, hf, rfl⟩

/-- **An error log tells its findings.** Whatever their details hold, no two lists of findings have the same lines, and
no finding makes a log that says there are none. There is one line for each finding, at its place in the list, and it
is the line of no other finding. -/
theorem summary_tells_findings (first second : List Finding) :
    (summary first = summary second ↔ first = second) ∧ (summary first = [noErrors] ↔ first = []) ∧
      (report first).length = first.length ∧
      ∀ (place : Nat) (finding : Finding),
        (report first)[place]? = some finding.render ↔ first[place]? = some finding := by
  refine ⟨?_, ?_, List.length_map Finding.render, ?_⟩
  · exact ⟨eq_of_summary_eq, congrArg summary⟩
  · -- the log that says so is that of no findings
    have hclean : summary [] = [noErrors] := rfl
    rw [← hclean]
    exact ⟨eq_of_summary_eq, congrArg summary⟩
  · intro place finding
    exact getElem?_report_eq_some_iff

end TagNesting
