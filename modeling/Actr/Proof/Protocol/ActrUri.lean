import Actr.Protocol.ActrUri

/-! # Actor URIs and their texts -/

namespace Actr.Proof.Protocol
open Actr.Protocol Library.Checks Library.Text

variable {uri : ActrUri} {text : String}

structure Unambiguous (uri : ActrUri) : Prop where
  manufacturer : '+' ∉ uri.manufacturer.toList
  version : '@' ∉ uri.version.toList

def written (uri : ActrUri) (realm : List Char) : List Char :=
  ActrUri.start.toList ++ ((realm ++ ':' :: (uri.manufacturer.toList ++ '+' :: uri.name.toList)) ++
    '@' :: uri.version.toList)

theorem toList_display : uri.display.toList = written uri (toString uri.realm.toNat).toList := by
  simp [ActrUri.display, written]

theorem fromStr_eq_ok : ActrUri.fromStr text = .ok uri ↔ ∃ realmStr realm, text.toList = written uri realmStr ∧
      ':' ∉ realmStr ∧ parseUnsigned (2 ^ 32) realmStr = .ok realm ∧ uri.realm = .ofNat realm ∧ Unambiguous uri := by
  unfold ActrUri.fromStr
  simp only [bind_eq_ok, okOr_eq_ok, require_eq_ok, mapError_eq_ok, pure_eq_ok, Prod.exists,
    List.dropPrefix?_eq_some_iff, rsplitOnce_eq_some, splitOnce_eq_some]
  constructor
  · rintro ⟨rest, ⟨scheme, same, actr⟩, _, -, authority, version, ⟨rfl, versioned⟩, realmStr, typePart,
      ⟨rfl, apart⟩, realm, parsed, manufacturer, name, ⟨rfl, typed⟩, rfl⟩
    rw [beq_iff_eq] at actr
    refine ⟨realmStr, realm, ?_, apart, parsed, rfl, by simpa using typed, by simpa using versioned⟩
    simp only [same, actr, written, String.toList_ofList]
  · rintro ⟨realmStr, realm, same, apart, parsed, own, typed, versioned⟩
    refine ⟨_, ⟨_, same, by simp⟩, (), by simp, _, _, ⟨rfl, versioned⟩, _, _, ⟨rfl, apart⟩, realm, parsed, _, _,
      ⟨rfl, typed⟩, ?_⟩
    simp [← own]

theorem build_eq_ok_iff : (∃ builder : ActrUriBuilder, builder.build = .ok uri) ↔ uri.version ≠ "" := by
  constructor
  · rintro ⟨builder, built⟩
    simp only [ActrUriBuilder.build, bind_eq_ok, okOr_eq_ok, require_eq_ok, pure_eq_ok] at built
    obtain ⟨_, -, _, -, _, -, _, versioned, rfl⟩ := built
    exact versioned
  · intro versioned
    exact ⟨⟨uri.realm, uri.manufacturer, uri.name, uri.version⟩, by simp [ActrUriBuilder.build, okOr, require_of versioned]⟩

theorem uris_round_trip_iff (uri : ActrUri) :
    (ActrUri.fromStr uri.display = .ok uri ↔ Unambiguous uri) ∧
      ∀ text, ActrUri.fromStr text = .ok uri →
        Unambiguous uri ∧ ((∃ builder : ActrUriBuilder, builder.build = .ok uri) ↔ uri.version ≠ "") := by
  constructor
  · rw [fromStr_eq_ok]
    constructor
    · rintro ⟨_, _, -, -, -, -, unambiguous⟩
      exact unambiguous
    · intro unambiguous
      refine ⟨_, _, toList_display, ?_, parseUnsigned_toString uri.realm.toNat_lt, by simp, unambiguous⟩
      exact notMem_toString rfl
  · intro text parsed
    obtain ⟨_, _, -, -, -, -, unambiguous⟩ := fromStr_eq_ok.mp parsed
    exact ⟨unambiguous, build_eq_ok_iff⟩

theorem built_uri_reads_differently :
    (ActrUriBuilder.build ⟨some 1, some "acme+labs", some "echo", "1"⟩ = .ok ⟨1, "acme+labs", "echo", "1"⟩ ∧
      ActrUri.fromStr (ActrUri.display ⟨1, "acme+labs", "echo", "1"⟩) = .ok ⟨1, "acme", "labs+echo", "1"⟩) ∧
      ActrUri.fromStr "actr://1:acme+echo@" = .ok ⟨1, "acme", "echo", ""⟩ := by
  decide +kernel

end Actr.Proof.Protocol
