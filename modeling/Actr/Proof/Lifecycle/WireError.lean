import Actr.Hyper.Lifecycle.WireError
import Mathlib.Logic.Function.Iterate

/-! # What an error keeps over several hops -/

namespace Actr.Proof.Lifecycle.WireError
open Actr.Protocol Hyper.Wire Hyper.Lifecycle

def message : ActrError → String
  | .unavailable message | .notFound message | .permissionDenied message | .invalidArgument message
  | .unknownRoute message | .dependencyNotFound _ message | .decodeFailure message | .notImplemented message
  | .internal message => message
  | .connectionNotReady _ | .timedOut => ""

def Textless (error : ActrError) : Prop :=
  error = .timedOut ∨ ∃ hint, error = .connectionNotReady hint

theorem parseU64_toString (fits : hint < 2 ^ 64) : parseU64 (toString hint).toList = some hint := by
  have digits : ∀ c ∈ Nat.toDigits 10 hint, c.isDigit = true := fun c member =>
    Nat.isDigit_of_mem_toDigits (by decide) (by decide) member
  have unsigned : (Nat.toDigits 10 hint).head? ≠ some '+' := by
    intro sign
    simpa using digits _ (List.mem_of_mem_head? sign)
  have value : (Nat.toDigits 10 hint).foldl (fun value c => 10 * value + (c.toNat - '0'.toNat)) 0 = hint :=
    Nat.ofDigitChars_ten_toDigits
  have present : Nat.toDigits 10 hint ≠ [] := Nat.toDigits_ne_nil
  rw [Nat.toString_eq_ofList_toDigits, String.toList_ofList]
  simp only [parseU64, unsigned, if_false, value, fits, if_true]
  simpa [present] using fun c member => digits c member

theorem hint_of_display (fits : ∀ value, hint = some value → value < 2 ^ 64) :
    parseConnectionNotReadyRetryHint ("connection not ready: " ++ displayRetryHint hint) = hint := by
  cases hint with
  | none => decide
  | some value =>
    have plain : ∀ c ∈ (toString value).toList, (c ≠ ')') := by
      rintro c member rfl
      rw [Nat.toString_eq_ofList_toDigits, String.toList_ofList] at member
      simpa using Nat.isDigit_of_mem_toDigits (by decide) (by decide) member
    have written : displayRetryHint (some value) = "retry_after_ms=Some(" ++ toString value ++ ")" := rfl
    have shape : ("connection not ready: " ++ displayRetryHint (some value)).toList =
        "connection not ready: retry_after_ms=Some(".toList ++ ((toString value).toList ++ [')']) := by
      rw [written]
      simp
    have found : textAfter "retry_after_ms=Some(".toList ("connection not ready: retry_after_ms=Some(".toList ++
        ((toString value).toList ++ [')'])) = some ((toString value).toList ++ [')']) := rfl
    have closed : ((toString value).toList ++ [')']).takeWhile (· ≠ ')') = (toString value).toList := by
      rw [List.takeWhile_append_of_pos (by simpa using plain)]
      simp
    rw [parseConnectionNotReadyRetryHint, shape, found, Option.bind_some, closed, parseU64_toString (fits value rfl)]
    simp

theorem relay_textless (textless : Textless error)
    (fits : ∀ hint, error = .connectionNotReady (some hint) → hint < 2 ^ 64) : relay error = error := by
  obtain rfl | ⟨hint, rfl⟩ := textless
  · rfl
  · exact congrArg ActrError.connectionNotReady (hint_of_display fun value same => fits value (same ▸ rfl))

theorem length_label {label text : String} (labelled : 0 < label.length) : text.length < (label ++ text).length := by
  rw [String.length_append]
  omega

theorem relay_text (text : ¬ Textless error) :
    (message error).length < (message (relay error)).length ∧ ¬ Textless (relay error) := by
  cases error with
  | timedOut => exact absurd (.inl rfl) text
  | connectionNotReady hint => exact absurd (.inr ⟨hint, rfl⟩) text
  | dependencyNotFound =>
    refine ⟨length_label ?_, by rintro (same | ⟨hint, same⟩) <;> cases same⟩
    simp only [String.length_append]
    have : 0 < "dependency '".length := by decide
    omega
  | _ => exact ⟨length_label (by decide), by rintro (same | ⟨hint, same⟩) <;> cases same⟩

theorem iterate_text (text : ¬ Textless error) (hops : Nat) :
    (message error).length + hops ≤ (message (relay^[hops] error)).length ∧ ¬ Textless (relay^[hops] error) := by
  induction hops with
  | zero => exact ⟨le_rfl, text⟩
  | succ hops ih =>
    rw [Function.iterate_succ_apply']
    have step := relay_text ih.2
    exact ⟨by omega, step.2⟩

theorem code_relay (error : ActrError) : protocolErrorToCode (relay error) = protocolErrorToCode error := by
  cases error <;> rfl

theorem code_iterate (error : ActrError) (hops : Nat) :
    protocolErrorToCode (relay^[hops] error) = protocolErrorToCode error := by
  induction hops with
  | zero => rfl
  | succ hops ih => rw [Function.iterate_succ_apply', code_relay, ih]

theorem relayed_iff_textless (error : ActrError) (hops : Nat) (hopped : 1 ≤ hops)
    (fits : ∀ hint, error = .connectionNotReady (some hint) → hint < 2 ^ 64) :
    protocolErrorToCode (relay^[hops] error) = protocolErrorToCode error ∧
      (relay^[hops] error = error ↔ error = .timedOut ∨ ∃ hint, error = .connectionNotReady hint) := by
  refine ⟨code_iterate error hops, ?_, ?_⟩
  · intro same
    by_contra text
    have longer := (iterate_text text hops).1
    rw [same] at longer
    omega
  · intro textless
    exact Function.iterate_fixed (relay_textless textless fits) hops

theorem relayed_iff_textless_hint : protocolErrorToCode (relay^[3] (.connectionNotReady (some 250))) = 10011 ∧
      (relay^[3] (.connectionNotReady (some 250)) = .connectionNotReady (some 250) ↔
        ActrError.connectionNotReady (some 250) = .timedOut ∨
          ∃ hint, ActrError.connectionNotReady (some 250) = .connectionNotReady hint) :=
  relayed_iff_textless (.connectionNotReady (some 250)) 3 (by decide) (by rintro hint ⟨rfl⟩; decide)

theorem dependency_lost_on_the_wire : relay (.dependencyNotFound "billing" "no entry") =
      .dependencyNotFound "" "dependency 'billing' not found: no entry" ∧
    relay^[2] (.internal "boom") = .internal "internal error: internal error: boom" := by
  decide

end Actr.Proof.Lifecycle.WireError
