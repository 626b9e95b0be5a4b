import CopyFormat.Proofs.Pattern.Fault
import CopyFormat.Proofs.Substitution.Classification

/-!
What is told about a search text whose body is faulty. The body is repeated as it stands, line
breaks and all. Behind it stands the reason: the message of the fault, unless the body passes for
the line of the report that gives the reason.
-/

namespace CopyFormat.Substitution

variable {search body flags : Text} {fault : Pattern.Fault}

/-- The characters that end a line: line feed, line tabulation, form feed, carriage return, next
line, line separator and paragraph separator. -/
def isLineBreak (c : Char) : Bool :=
  let n := c.toNat
  (10 ≤ n && n ≤ 13) || n == 0x85 || n == 0x2028 || n == 0x2029

theorem not_isLineBreak_of_isPrintable {c : Char} (h : Pattern.isPrintable c = true) :
    isLineBreak c = false := by
  simp [Pattern.isPrintable] at h
  simp [isLineBreak]
  omega

theorem not_mem_message_of_isLineBreak {c : Char} (hc : isLineBreak c = true) :
    c ∉ fault.message := by
  intro hmem
  have hprintable := (Pattern.isWording_iff.mp fault.message_isWording).1 c hmem
  rw [not_isLineBreak_of_isPrintable hprintable] at hc
  cases hc

/-- A pattern of one line that starts like the line of a report that gives the reason. -/
def FeignsReason (pattern : Text) : Prop :=
  '\n' ∉ pattern ∧ Pattern.reasonMark <+: Text.trim pattern

instance (pattern : Text) : Decidable (FeignsReason pattern) :=
  inferInstanceAs (Decidable (_ ∧ _))

theorem reason_of_not_feignsReason (h : ¬FeignsReason body) : fault.reason body = fault.message := by
  by_cases hline : '\n' ∈ body
  · exact fault.reason_of_lines hline
  · have hnone : Pattern.reasonIn? body = none := by
      rw [Option.eq_none_iff_forall_ne_some]
      intro rest hrest
      exact h ⟨hline, rest, (Text.after?_eq_some hrest).symm⟩
    rw [fault.reason_of_line hline, hnone, Option.getD_none]

theorem reason_of_feignsReason (h : FeignsReason body) :
    Text.trim body = Pattern.reasonMark ++ fault.reason body := by
  obtain ⟨hline, rest, hrest⟩ := h
  have hsome : Pattern.reasonIn? body = some rest := by
    rw [Pattern.reasonIn?, ← hrest, Text.after?_append]
  rw [fault.reason_of_line hline, hsome, Option.getD_some, hrest]

theorem mem_body_of_mem_reason {c : Char} (hc : isLineBreak c = true)
    (hmem : c ∈ fault.reason body) : c ∈ body := by
  by_cases h : FeignsReason body
  · have htrim : Text.trim body = Pattern.reasonMark ++ fault.reason body :=
      reason_of_feignsReason h
    apply Text.trim_subset body
    rw [htrim]
    exact List.mem_append_right _ hmem
  · rw [reason_of_not_feignsReason h] at hmem
    exact absurd hmem (not_mem_message_of_isLineBreak hc)

theorem lineFeed_not_mem_reason : '\n' ∉ fault.reason body := by
  intro hmem
  have hbody : '\n' ∈ body := mem_body_of_mem_reason (by decide) hmem
  rw [fault.reason_of_lines hbody] at hmem
  exact not_mem_message_of_isLineBreak (by decide) hmem

theorem message_compile (pattern reason : Text) :
    (PatternError.compile pattern reason).message =
      Text.lit "invalid pattern /" ++ pattern ++ Text.lit "/: " ++ reason := rfl

theorem mem_message_compile_iff {c : Char} (hc : isLineBreak c = true) (pattern reason : Text) :
    c ∈ (PatternError.compile pattern reason).message ↔ c ∈ pattern ∨ c ∈ reason := by
  have hopening : c ∉ Text.lit "invalid pattern /" := not_mem_of_class (by decide) hc
  have hbetween : c ∉ Text.lit "/: " := not_mem_of_class (by decide) hc
  rw [message_compile, List.mem_append, List.mem_append, List.mem_append, or_iff_right hopening,
    or_iff_left hbetween]

theorem Splits.not_isBlankText (h : Splits search body flags) : search.isBlankText = false := by
  obtain ⟨-, -, -, rfl⟩ := h
  exact Text.isBlankText_of_mem List.mem_cons_self (by decide)

theorem Splits.substitute_of_fault (h : Splits search body flags) (hflags : flags.Nodup)
    (hfault : Pattern.meaning (modesOf flags) body = .error fault) (room : Pattern.Expr → Nat)
    (t replacement : Text) :
    substitute t search replacement room = .error (.compile body (fault.reason body)) := by
  have hrule : compiledRule room body flags = .error (.compile body (fault.reason body)) := by
    rw [compiledRule, Pattern.compile, hfault]
    rfl
  rw [substitute, h.not_isBlankText, h.parse_of_nodup room hflags, hrule]
  rfl

/-- A search text with a faulty body is refused with an error that names the body. What is told
has the line breaks of the body and no others, and its reason has no line feed. The reason is the
message of the fault unless the body passes for the line with the reason: then the rest of the body
is told in place of the message. -/
theorem fault_is_told (hsplits : Splits search body flags) (hflags : flags.Nodup)
    (hfault : Pattern.meaning (modesOf flags) body = .error fault) (room : Pattern.Expr → Nat)
    (t replacement : Text) :
    ∃ e reason,
      e = .compile body reason ∧
      substitute t search replacement room = .error e ∧
      substituteOrMark t search replacement room =
        (t ++ Text.lit " [pattern error: " ++ e.message ++ [']'], some e) ∧
      e.message = Text.lit "invalid pattern /" ++ body ++ Text.lit "/: " ++ reason ∧
      '\n' ∉ reason ∧
      (∀ c, isLineBreak c = true → (c ∈ e.message ↔ c ∈ body)) ∧
      (¬FeignsReason body → reason = fault.message) ∧
      (FeignsReason body → Text.trim body = Pattern.reasonMark ++ reason) := by
  have hsubstitute := hsplits.substitute_of_fault hflags hfault room t replacement
  refine ⟨.compile body (fault.reason body), fault.reason body, rfl, hsubstitute, ?_, rfl,
    lineFeed_not_mem_reason, fun c hc => ?_, reason_of_not_feignsReason, reason_of_feignsReason⟩
  · rw [substituteOrMark, hsubstitute]
  · rw [mem_message_compile_iff hc]
    exact ⟨fun h => h.elim id (mem_body_of_mem_reason hc), .inl⟩

/-- A group that is not closed, alone and behind what opens the line with the reason. -/
theorem fault_is_told_unclosed :
    (∃ e, substitute ['t'] (Text.lit "/(abc/g") [] = .error e ∧
      e.message = Text.lit "invalid pattern /(abc/: unclosed group") ∧
    ∃ e, substitute ['t'] (Text.lit "/error: (/g") [] = .error e ∧
      e.message = Text.lit "invalid pattern /error: (/: (" := by
  constructor
  · have hsplits : Splits (Text.lit "/(abc/g") (Text.lit "(abc") ['g'] :=
      slashForm?_eq_some_iff.mp rfl
    have hfault : Pattern.meaning (modesOf ['g']) (Text.lit "(abc") = .error .groupUnclosed := rfl
    obtain ⟨e, reason, -, herror, -, hmessage, -, -, hreason, -⟩ :=
      fault_is_told hsplits (by decide) hfault _ ['t'] []
    rw [hreason (by decide)] at hmessage
    exact ⟨e, herror, hmessage⟩
  · have hsplits : Splits (Text.lit "/error: (/g") (Text.lit "error: (") ['g'] :=
      slashForm?_eq_some_iff.mp rfl
    have hfault : Pattern.meaning (modesOf ['g']) (Text.lit "error: (") = .error .groupUnclosed :=
      rfl
    obtain ⟨e, reason, -, herror, -, hmessage, -, -, -, hreason⟩ :=
      fault_is_told hsplits (by decide) hfault _ ['t'] []
    have htrim : Pattern.reasonMark ++ ['('] = Pattern.reasonMark ++ reason := hreason (by decide)
    rw [← List.append_cancel_left htrim] at hmessage
    exact ⟨e, herror, hmessage⟩

/-- What is told need not end with the message of the fault, and need not be one line. -/
theorem fault_is_mistold :
    (¬∀ search body flags fault t replacement e, Splits search body flags →
      Pattern.meaning (modesOf flags) body = .error fault →
      substitute t search replacement = .error e → fault.message <:+ e.message) ∧
    ¬∀ search body flags fault t replacement e, Splits search body flags →
      Pattern.meaning (modesOf flags) body = .error fault →
      substitute t search replacement = .error e → ∀ c ∈ e.message, isLineBreak c = false := by
  constructor
  · intro h
    have hsplits : Splits (Text.lit "/error: (/g") (Text.lit "error: (") ['g'] :=
      slashForm?_eq_some_iff.mp rfl
    have hfault : Pattern.meaning (modesOf ['g']) (Text.lit "error: (") = .error .groupUnclosed :=
      rfl
    have hends := h _ _ _ _ ['t'] [] _ hsplits hfault
      (hsplits.substitute_of_fault (by decide) hfault _ _ _)
    exact absurd hends (by decide +kernel)
  · intro h
    have hsplits : Splits (Text.lit "/(\n/g") (Text.lit "(\n") ['g'] :=
      slashForm?_eq_some_iff.mp rfl
    have hfault : Pattern.meaning (modesOf ['g']) (Text.lit "(\n") = .error .groupUnclosed := rfl
    have hline := h _ _ _ _ ['t'] [] _ hsplits hfault
      (hsplits.substitute_of_fault (by decide) hfault _ _ _)
    have hmem : '\n' ∈ (PatternError.compile (Text.lit "(\n")
        (Pattern.Fault.groupUnclosed.reason (Text.lit "(\n"))).message :=
      (mem_message_compile_iff (by decide) _ _).mpr (.inl (by decide))
    exact absurd (hline _ hmem) (by decide)

end CopyFormat.Substitution
