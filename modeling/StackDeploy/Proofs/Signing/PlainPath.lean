/-
# Plain paths

A service signs the path of a request encoded once or twice. Encoding loses nothing, so either form
tells the path, and it changes every text that is not plain. The two forms are therefore the same
exactly for the paths that consist of unreserved characters and slashes: the slash that is put in
front of a path which has none is plain itself.
-/

import StackDeploy.Proofs.Text.Plain
import StackDeploy.Signing.Signer

namespace StackDeploy.Signing

open Text.Percent (IsEncoded IsPlain decode encode)

variable {path : String}

theorem isPlain_append {keepSlash : Bool} {s t : String} :
    IsPlain keepSlash (s ++ t) ↔ IsPlain keepSlash s ∧ IsPlain keepSlash t := by
  simp only [IsPlain, String.toList_append, List.forall_mem_append]

theorem isPlain_slash : IsPlain true "/" := by
  intro c mem
  have same : c = '/' := List.mem_singleton.1 mem
  exact .inr ⟨rfl, same⟩

/-- The canonical form of a path is plain exactly if the path is. -/
theorem isPlain_canonicalPath_iff : IsPlain true (canonicalPath path) ↔ IsPlain true path := by
  unfold canonicalPath
  dsimp only
  split
  next empty =>
    rw [String.isEmpty_iff.1 empty]
    exact iff_of_true isPlain_slash nofun
  next =>
    split
    · exact Text.Percent.isPlain_encode_iff
    · rw [isPlain_append, and_iff_right isPlain_slash]
      exact Text.Percent.isPlain_encode_iff

namespace Signer

/-- A path is signed alike in both modes exactly if it is plain. -/
theorem signingPath_withEncoding_eq_iff (s : Signer) :
    (s.withEncoding false).signingPath path = (s.withEncoding true).signingPath path ↔
      IsPlain true path :=
  calc (s.withEncoding false).signingPath path = (s.withEncoding true).signingPath path
    _ ↔ encode (canonicalPath path) true = canonicalPath path := eq_comm
    _ ↔ IsPlain true (canonicalPath path) := Text.Percent.encode_eq_self_iff
    _ ↔ IsPlain true path := isPlain_canonicalPath_iff

end Signer

/-- Percent-encoding is undone by decoding, so it tells texts apart; what it writes has the form of
encoded texts, and it keeps exactly the plain texts. So the paths that are signed alike in both
modes are the plain ones. -/
theorem encoding_is_reversible_and_keeps_exactly_plain_texts (s : String) (keepSlash : Bool) :
    decode (encode s keepSlash) = some s ∧
      (∀ other, encode s keepSlash = encode other keepSlash ↔ s = other) ∧
      IsEncoded keepSlash (encode s keepSlash).toList ∧
      (encode s keepSlash = s ↔ IsPlain keepSlash s) ∧
      ∀ signer : Signer,
        (signer.withEncoding false).signingPath s = (signer.withEncoding true).signingPath s ↔
          IsPlain true s :=
  ⟨Text.Percent.decode_encode s keepSlash, fun _ => Text.Percent.encode_inj,
    Text.Percent.isEncoded_encode s keepSlash, Text.Percent.encode_eq_self_iff,
    fun signer => signer.signingPath_withEncoding_eq_iff⟩

end StackDeploy.Signing
