import ClangIndex.Binding.Marshal
import ClangIndex.Native.Script
import ClangIndex.Proofs.Utf8Reading
import Mathlib.Data.List.TakeWhile

namespace ClangIndex

open Native (Answer Call Function Script Side)
open Text (Bytes cString utf8 ofUtf8)

namespace Text

theorem zero_not_mem_cString (b : Bytes) : 0 ∉ cString b := by
  intro mem
  simpa using List.mem_takeWhile_imp mem

theorem cString_of_zero_not_mem {b : Bytes} (none : 0 ∉ b) : cString b = b := by
  refine List.takeWhile_eq_self_iff.mpr fun x mem => ?_
  simpa using ne_of_mem_of_not_mem mem none

theorem toList_ofUtf8 (b : Bytes) : (ofUtf8 b).toList = Utf8.decode b := String.toList_ofList

theorem ofUtf8_utf8 (s : String) : ofUtf8 (utf8 s) = s := by
  rw [ofUtf8, utf8, Utf8.decode_encode, String.ofList_toList]

end Text

inductive Value.Spells : Value → Bytes → Prop
  | text (s : String) : Spells (.text s) (utf8 s)
  | bytes (b : Bytes) : Spells (.bytes b) b
  | path (s : String) : Spells (.path s) (utf8 s)
  | bytesPath (b : Bytes) (id : Identity) : Spells (.object (.bytesPath b) id) b

/-- The text of an answer is null, or it is these bytes up to the first zero byte. -/
def Native.Answer.Holds (a : Answer) (b : Option Bytes) : Prop := a.text = b.map cString

namespace Marshal

def readNew (v : Value) : Except Failure String := (newText v).map readBack

theorem newText_of_spells {v : Value} {b : Bytes} (h : v.Spells b) : newText v = .ok b := by
  cases h <;> rfl

theorem readBack_utf8 {s : String} (none : '\x00' ∉ s.toList) : readBack (utf8 s) = s := by
  have whole : cString (utf8 s) = utf8 s :=
    Text.cString_of_zero_not_mem (mt Text.Utf8.zero_mem_encode_iff.mp none)
  rw [readBack, whole, Text.ofUtf8_utf8]

theorem reads_readBack (b : Bytes) : Text.Utf8.Reads (cString b) (readBack b).toList := by
  rw [readBack, Text.toList_ofUtf8]
  exact Text.Utf8.reads_iff.mpr rfl

theorem readNew_readBack (b : Bytes) : readNew (.text (readBack b)) = .ok (readBack b) := by
  have none := (reads_readBack b).zero_not_mem (Text.zero_not_mem_cString b)
  exact congrArg Except.ok (readBack_utf8 none)

theorem utf8_readBack_iff (b : Bytes) :
    utf8 (readBack b) = cString b ↔ (cString b).toByteArray.IsValidUTF8 := by
  rw [utf8, readBack, Text.toList_ofUtf8]
  exact Text.Utf8.encode_decode_iff

end Marshal

open Marshal (readBack readNew)

theorem ForeignString.read_of_data {s : ForeignString} {b : Option Bytes}
    (data : s.data = b.map cString) : s.read = b.elim "" readBack := by
  rw [read, data]
  cases b <;> rfl

namespace Native

theorem Function.exec_text {f : Function} {actuals : List Actual} {keeps : f.releases = false}
    {side : Side} {w v : World} {call : Call} {answer : Answer} {b : Option Bytes}
    (made : (f.invoke actuals keeps).exec side w = (.ok (call, answer), v))
    (holds : answer.Holds b) :
    ((f.text actuals keeps).exec side w).1 = .ok (b.elim "" readBack) := by
  rw [Function.text, Binding.exec_bind_ok made]
  exact congrArg Except.ok
    (ForeignString.read_of_data (s := ⟨some v.strings.made, answer.text⟩) holds)

namespace Script

variable {f : Function} (returns : f.signature.result = some (.struct .string))

include returns

theorem holds_answerOf_null : (answerOf f .null).Holds none := by
  rw [answerOf]
  · rw [returns]
    rfl
  all_goals nofun

theorem holds_answerOf {j : Json} {b : Bytes} (written : bytesOf? j = some b) :
    (answerOf f j).Holds (some b) := by
  have text : ({ result := .text (textOf j) } : Answer).Holds (some b) :=
    congrArg (Option.map cString) written
  cases j with
  | text s =>
    rw [answerOf]
    · rw [returns]
      exact text
    all_goals nofun
  | object es =>
    cases stated : (Json.object es).get? "bytes" with
    | none => simp [bytesOf?, stated] at written
    | some x =>
      rw [answerOf]
      · simp only [returns, stated]
        exact text
      · rintro rfl
        cases returns
  | _ => simp [bytesOf?, Json.get?] at written

end Script

end Native

open Native.Script (answerOf)

namespace Marshal

/-- A text without a zero character comes back as it was given. Whatever else C strings are made of
comes back as what its bytes read as up to the first zero byte: these are its bytes again just if
they are valid, and it comes back unchanged from then on. A text that the native side hands out is
read in the same way, and is empty if there is none. -/
theorem texts_read_back :
    (∀ s : String, '\x00' ∉ s.toList → readNew (.text s) = .ok s) ∧
    (∀ v b, v.Spells b → readNew v = .ok (readBack b)) ∧
    (∀ b, (∀ s, Text.Utf8.Reads (cString b) s ↔ s = (readBack b).toList) ∧
      (utf8 (readBack b) = cString b ↔ (cString b).toByteArray.IsValidUTF8) ∧
      readNew (.text (readBack b)) = .ok (readBack b)) ∧
    (∀ (f : Function) (actuals : List Actual) (keeps : f.releases = false) (side : Side)
      (w v : World) (call : Call) (answer : Answer) (b : Option Bytes),
      (f.invoke actuals keeps).exec side w = (.ok (call, answer), v) → answer.Holds b →
        ((f.text actuals keeps).exec side w).1 = .ok (b.elim "" readBack)) ∧
    ∀ f : Function, f.signature.result = some (.struct .string) →
      (answerOf f .null).Holds none ∧
        ∀ j b, Native.bytesOf? j = some b → (answerOf f j).Holds (some b) := by
  refine ⟨fun s none => congrArg Except.ok (readBack_utf8 none),
    fun v b spells => congrArg (Except.map readBack) (newText_of_spells spells),
    fun b => ⟨fun s => ?_, utf8_readBack_iff b, readNew_readBack b⟩,
    fun f actuals keeps side w v call answer b => Function.exec_text,
    fun f returns => ⟨Native.Script.holds_answerOf_null returns,
      fun j b => Native.Script.holds_answerOf returns⟩⟩
  exact ⟨fun reads => reads.unique (reads_readBack b), fun e => e ▸ reads_readBack b⟩

def interrupted : Bytes := [0xC3, 0xA9, 0xE2, 0x82, 0x00, 0x61]

def naming : Side where
  answer _ _ := answerOf .getClangVersion (.object [("bytes", .text "c3a9e2820061")])

theorem texts_read_back_interrupted :
    readNew (.text "né") = .ok "né" ∧
      readNew (.object (.bytesPath interrupted)) = .ok "é\uFFFD" ∧
      ¬(cString interrupted).toByteArray.IsValidUTF8 ∧
      readNew (.text "é\uFFFD") = .ok "é\uFFFD" ∧
      ((Function.getClangVersion.text []).exec naming {}).1 = .ok "é\uFFFD" := by
  obtain ⟨texts, spelled, bytes, answered, scripted⟩ := texts_read_back
  have read : readBack interrupted = "é\uFFFD" := by decide +kernel
  obtain ⟨-, valid, again⟩ := bytes interrupted
  rw [read] at valid again
  refine ⟨texts "né" (by decide), ?_, mt valid.mpr (by decide +kernel), again, ?_⟩
  · rw [spelled _ _ (.bytesPath interrupted .passing), read]
  · have holds := (scripted .getClangVersion rfl).2 (.object [("bytes", .text "c3a9e2820061")])
      interrupted (by decide +kernel)
    rw [answered _ _ rfl naming {} _ _ _ _ rfl holds, Option.elim, read]

end Marshal

end ClangIndex
