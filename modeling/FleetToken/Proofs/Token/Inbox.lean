import FleetToken.Proofs.Bytes.Hex
import FleetToken.Proofs.Token.Connection

/-!
# Reply inboxes

An inbox is the collective, a fixed word, and the digest of an identity in hexadecimal digits. The
digest has always the same number of digits, so whatever stands in the collective, an inbox belongs
to one collective only. Nothing of the identity is seen in it: no dot and no wildcard of an identity
gets into the subject that a broker is asked for.

## Main definitions

* `Text.IsReplySuffix`: what may stand behind the collective.

## Main results

* `exists_suffix_of_inboxFor`: what stands behind the collective.
* `inboxFor_separates`: equal inboxes are of one collective and of one digest.
-/

namespace FleetToken

theorem Digest.length_md5 (message : Bytes) : (Digest.md5 message).length = 16 := by
  simp [Digest.md5, Ed25519.length_ofNatLittle]

/-- The hexadecimal digits in lower case. -/
def lowerHexAlphabet : Text :=
  Text.ofString "0123456789abcdef"

theorem CodePoint.hexDigit_mem_lowerHexAlphabet : ∀ d < 16, hexDigit d ∈ lowerHexAlphabet := by
  decide

/-- What stands behind the collective in an inbox: a fixed word and thirty-two hexadecimal digits
in lower case. -/
def Text.IsReplySuffix (t : Text) : Prop :=
  ∃ digits, t = ofString ".reply." ++ digits ∧ digits.length = 32
    ∧ ∀ c ∈ digits, c ∈ lowerHexAlphabet

/-- A digest is written in thirty-two digits. -/
theorem length_encode_md5 (message : Bytes) : (Hex.encode (Digest.md5 message)).length = 32 := by
  rw [Hex.length_encode, Digest.length_md5]

/-- So the tail of an inbox is a reply suffix. -/
theorem isReplySuffix_md5 (message : Bytes) :
    (Text.ofString ".reply." ++ Hex.encode (Digest.md5 message)).IsReplySuffix := by
  refine ⟨_, rfl, length_encode_md5 message, fun c hc => ?_⟩
  obtain ⟨d, hd, rfl⟩ := Hex.exists_hexDigit_of_mem_encode hc
  exact CodePoint.hexDigit_mem_lowerHexAlphabet d hd

/-- Behind the collective an inbox has always the same form. -/
theorem exists_suffix_of_inboxFor {collective identity inbox : Text}
    (h : inboxFor collective identity = .ok inbox) :
    ∃ suffix, suffix.IsReplySuffix ∧ inbox = collective ++ suffix := by
  rw [inboxFor] at h
  split at h
  · rename_i bytes hbytes
    obtain rfl := Except.ok.inj h
    exact ⟨_, isReplySuffix_md5 bytes, List.append_assoc _ _ _⟩
  · contradiction

/-- The inbox of a connection is that of some identity. -/
theorem Connection.exists_inboxFor_of_ofToken {token : TokenInput} {collective seedFile : Text}
    {connection : Connection} (h : ofToken token collective seedFile = .ok connection) :
    ∃ identity, statedIdentity token = .ok identity
      ∧ inboxFor collective identity = .ok connection.inbox := by
  rw [ofToken] at h
  split at h
  · contradiction
  split at h
  · contradiction
  obtain ⟨identity, hidentity, h⟩ := bind_eq_ok_iff.mp h
  obtain ⟨inbox, hinbox, h⟩ := bind_eq_ok_iff.mp h
  obtain rfl := Except.ok.inj h
  exact ⟨identity, hidentity, hinbox⟩

/-- Inboxes are equal if and only if they are of one collective and of identities with one digest.
What stands behind the collective has always the same form and is the same in all collectives, and
so it is in the inbox of every connection. -/
theorem inboxFor_separates (collective₁ collective₂ identity₁ identity₂ : Text)
    (h₁ : identity₁.WellFormed) (h₂ : identity₂.WellFormed) :
    (inboxFor collective₁ identity₁ = inboxFor collective₂ identity₂
      ↔ collective₁ = collective₂
        ∧ Digest.md5 identity₁.toUtf8 = Digest.md5 identity₂.toUtf8)
    ∧ (∃ suffix, suffix.IsReplySuffix
      ∧ ∀ collective, inboxFor collective identity₁ = .ok (collective ++ suffix))
    ∧ ∀ token seedFile connection,
      Connection.ofToken token collective₁ seedFile = .ok connection →
        ∃ suffix, suffix.IsReplySuffix ∧ connection.inbox = collective₁ ++ suffix := by
  refine ⟨⟨fun h => ?_, ?_⟩, ⟨_, isReplySuffix_md5 identity₁.toUtf8, fun collective => ?_⟩, ?_⟩
  · rw [inboxFor_of_wellFormed h₁, inboxFor_of_wellFormed h₂] at h
    -- The digits are as many on both sides, so they are cut off at the same place.
    obtain ⟨hfront, hdigits⟩ := List.append_inj' (Except.ok.inj h)
      ((length_encode_md5 _).trans (length_encode_md5 _).symm)
    exact ⟨List.append_cancel_right hfront, Hex.encode_injective hdigits⟩
  · rintro ⟨rfl, hdigest⟩
    rw [inboxFor_of_wellFormed h₁, inboxFor_of_wellFormed h₂, hdigest]
  · rw [inboxFor_of_wellFormed h₁, List.append_assoc]
  · intro token seedFile connection h
    obtain ⟨identity, -, hinbox⟩ := Connection.exists_inboxFor_of_ofToken h
    exact exists_suffix_of_inboxFor hinbox

/-- A collective whose name ends like an inbox has inboxes of its own. -/
theorem inboxFor_nestedCollective :
    inboxFor (Text.ofString "fleet") (Text.ofString "*.>")
      ≠ inboxFor (Text.ofString "fleet.reply.d41d8cd98f00b204e9800998ecf8427e") [] := by
  intro h
  have hsame := (inboxFor_separates _ _ _ _ (by decide) (by decide)).1.mp h
  exact absurd hsame.1 (by decide)

example : (inboxFor (Text.ofString "choria") (Text.ofString "ginkgo")).toOption
    = some (Text.ofString "choria.reply.4bb6777bb903cae3166e826932f7fe94") := by
  decide +kernel

end FleetToken
