import GridKeeper.Proofs.Framing

/-!
# Replies, written and read

A reply is written in one way and read leniently. What a text is read as hangs on its first two
lines alone. A line ends in front of a line feed or with the text; the carriage return that may
stand there is white space and goes with the rest of it. A text without a second line has an empty
message, and a text without anything has an empty first line, which is no status.

Writing and reading settle after one round: what is read off a text, whatever the text, is a reply
that comes back as it is when it is sent on. These are the replies whose message stays on one line
and ends with no white space, and no others.

**Results.**
* `decode_eq_ok_iff`, `decode_eq_error_iff`: what a text is read as, told by its first two lines.
* `decode_encode_iff`: which replies come back as they were sent.
* `decode_again`: what was read comes back.
* `codec_laws`: all of this together.
-/
namespace GridKeeper

namespace Wire.Reply

variable {r : Reply} {raw first second : String} {f : Fault}

/-! ## Reading -/

/-- The first line of a text is a word, up to the case of its letters and white space around it. -/
def Begins (raw word : String) : Prop :=
  Text.lowerAscii (Text.trim (Text.firstLine raw.toList)) = Text.lowerAscii word.toList

instance (raw word : String) : Decidable (Begins raw word) :=
  inferInstanceAs (Decidable (_ = _))

def messageIn (raw : String) : String := String.ofList (Text.trimEnd (Text.secondLine raw.toList))

/-- What a text is read as, told by its first two lines. -/
theorem decode_eq (raw : String) : decode raw =
    if Begins raw successWord then .ok (.success (messageIn raw))
    else if Begins raw errorWord then .ok (.error (messageIn raw))
    else .error (.malformedReply raw) := by
  simp only [decode, Text.drop_lines, Text.trim_headD_lines, Text.trimEnd_headD_lines,
    Text.sameLetters, beq_iff_eq]
  rfl

theorem not_begins_error (h : Begins raw successWord) : ¬ Begins raw errorWord := fun he =>
  absurd (h.symm.trans he) (by decide)

theorem decode_eq_ok_iff : decode raw = .ok r ↔ Begins raw r.status ∧ r.message = messageIn raw := by
  rw [decode_eq]
  by_cases hs : Begins raw successWord
  · rw [if_pos hs]
    cases r <;> simp [status, message, hs, not_begins_error hs, eq_comm]
  · by_cases he : Begins raw errorWord
    · rw [if_neg hs, if_pos he]
      cases r <;> simp [status, message, hs, he, eq_comm]
    · rw [if_neg hs, if_neg he]
      cases r <;> simp [status, hs, he]

theorem decode_eq_error_iff : decode raw = .error f ↔
    f = .malformedReply raw ∧ ¬ Begins raw successWord ∧ ¬ Begins raw errorWord := by
  rw [decode_eq]
  by_cases hs : Begins raw successWord
  · simp [hs]
  · by_cases he : Begins raw errorWord
    · simp [hs, he]
    · simp [hs, he, eq_comm]

/-- Nothing behind the second line is looked at. -/
theorem decode_append (hf : OneLine first) (hs : OneLine second) (rest : String) :
    decode (first ++ "\n" ++ second ++ "\n" ++ rest) = .ok r ↔
      decode (first ++ "\n" ++ second) = .ok r := by
  have hlong : (first ++ "\n" ++ second ++ "\n" ++ rest).toList =
      first.toList ++ '\n' :: (second.toList ++ '\n' :: rest.toList) := by simp
  have hshort : (first ++ "\n" ++ second).toList = first.toList ++ '\n' :: second.toList := by simp
  rw [decode_eq_ok_iff, decode_eq_ok_iff]
  simp only [Begins, messageIn, Text.secondLine, hlong, hshort, Text.firstLine_append hf,
    Text.behindLine_append hf, Text.firstLine_append hs, Text.firstLine_of_not_mem hs]

/-! ## Reading what was written -/

/-- **A reply comes back as it was sent** if and only if its message stays on one line and ends with
no white space. -/
theorem decode_encode_iff : decode r.encode = .ok r ↔
    OneLine r.message ∧ ∀ c ∈ r.message.toList.getLast?, Text.isBlank c = false := by
  have hback : decode r.encode = .ok r ↔
      Text.trimEnd (Text.firstLine r.message.toList) = r.message.toList := by
    rw [decode_encode]
    cases r <;> simp [mapMessage, message, ← String.toList_inj]
  rw [hback]
  constructor
  · intro h
    refine ⟨?_, fun c hc => ?_⟩
    · rw [OneLine, ← h]
      exact Text.not_mem_trimEnd (Text.not_mem_firstLine _)
    · rw [← h] at hc
      exact Text.getLast_dropEndWhile hc
  · rintro ⟨hone, hlast⟩
    rw [Text.firstLine_of_not_mem hone, Text.trimEnd_of_last hlast]

/-- **What was read off a text comes back.** -/
theorem decode_again (h : decode raw = .ok r) : decode r.encode = .ok r := by
  obtain ⟨-, hm⟩ := decode_eq_ok_iff.1 h
  rw [decode_encode_iff, OneLine, hm, messageIn, String.toList_ofList]
  exact ⟨Text.not_mem_trimEnd (Text.not_mem_firstLine _), fun c => Text.getLast_dropEndWhile⟩

/-- **Replies, written and read.** A reply that was sent is read as a reply of its kind with the
first line of its message, less the white space at the end; so it comes back as it was exactly if
its message stays on one line and ends with no white space, and whatever was read off a text comes
back. A text is read as a reply if its first line is a status, up to case and white space, and then
with the second line as its message, less the white space at the end; if not, the fault has the text
as it came. What stands behind the second line does not count. -/
theorem codec_laws (r : Reply) (raw : String) :
    decode r.encode =
      .ok (r.mapMessage fun m => String.ofList (Text.trimEnd (Text.firstLine m.toList))) ∧
    (decode r.encode = .ok r ↔
      OneLine r.message ∧ ∀ c ∈ r.message.toList.getLast?, Text.isBlank c = false) ∧
    (decode raw = .ok r → decode r.encode = .ok r) ∧
    (decode raw = .ok r ↔ Begins raw r.status ∧ r.message = messageIn raw) ∧
    (∀ f, decode raw = .error f ↔
      f = .malformedReply raw ∧ ¬ Begins raw successWord ∧ ¬ Begins raw errorWord) ∧
    ∀ first second rest : String, OneLine first → OneLine second →
      (decode (first ++ "\n" ++ second ++ "\n" ++ rest) = .ok r ↔
        decode (first ++ "\n" ++ second) = .ok r) :=
  ⟨decode_encode r, decode_encode_iff, decode_again, decode_eq_ok_iff, fun _ => decode_eq_error_iff,
    fun _ _ rest hf hs => decode_append hf hs rest⟩

/-- A status in other letters, lines that end with carriage returns, and more behind them. -/
theorem codec_laws_lenient :
    OneLine " Success\t\r" ∧ OneLine " 12 \r" ∧
      decode (" Success\t\r" ++ "\n" ++ " 12 \r" ++ "\n" ++ "more") = .ok (.success " 12") ∧
      decode (" Success\t\r" ++ "\n" ++ " 12 \r") = .ok (.success " 12") ∧
      decode (Reply.success " 12").encode = .ok (.success " 12") := by
  obtain ⟨-, -, hagain, hread, -, hrest⟩ := codec_laws (.success " 12")
    (" Success\t\r" ++ "\n" ++ " 12 \r" ++ "\n" ++ "more")
  have hfirst : OneLine " Success\t\r" := by decide
  have hsecond : OneLine " 12 \r" := by decide
  have hlong := hread.2 ⟨by decide +kernel, by decide +kernel⟩
  exact ⟨hfirst, hsecond, hlong, (hrest _ _ _ hfirst hsecond).1 hlong, hagain hlong⟩

end Wire.Reply
end GridKeeper
