import CipherMeter.Proofs.Mac.Formula

namespace CipherMeter

namespace Sha256

theorem compressAll_append (s : Chain) (as bs : List Bytes) :
    compressAll s (as ++ bs) = compressAll (compressAll s as) bs :=
  List.foldl_append

namespace Stream

theorem ext {s t : Stream} (hchain : s.chain = t.chain) (hpending : s.pending = t.pending)
    (hcount : s.count = t.count) : s = t := by
  cases s
  cases t
  simp_all only

/-- A message may be cut anywhere. -/
theorem update_append (s : Stream) (a b : Bytes) : s.update (a ++ b) = (s.update a).update b := by
  have hchain (s : Stream) (a : Bytes) : (s.update a).chain =
      compressAll s.chain (Bytes.wholePieces blockSize (s.pending ++ a)) := rfl
  have hpending (s : Stream) (a : Bytes) : (s.update a).pending =
      Bytes.remainder blockSize (s.pending ++ a) := rfl
  have hcount (s : Stream) (a : Bytes) : (s.update a).count = s.count + a.length := rfl
  have hpos : 0 < blockSize := by decide
  apply Stream.ext
  · rw [hchain, hchain, hchain, hpending, ← List.append_assoc,
      Bytes.wholePieces_append_remainder _ hpos, compressAll_append]
  · rw [hpending, hpending, hpending, ← List.append_assoc, Bytes.remainder_append _ hpos]
  · rw [hcount, hcount, hcount, List.length_append, Nat.add_assoc]

theorem finish_update_empty (a : Bytes) : (empty.update a).finish = hash a := by
  have hwhole := Bytes.wholePieces_append_remainder blockSize (by decide) a (padding a.length)
  rw [hash, hwhole, compressAll_append]
  simp only [finish, update, empty, List.nil_append, Nat.zero_add]
  rfl

end Stream

end Sha256

namespace Mac

theorem update_append (m : Mac) (a b : Bytes) : m.update (a ++ b) = (m.update a).update b := by
  rw [update, Sha256.Stream.update_append]
  rfl

theorem ofKey_update_nil (k : MacKey) : (ofKey k).update [] = ofKey k := by
  have h := Sha256.Stream.update_append .empty k.inner []
  rw [List.append_nil] at h
  rw [update, ofKey, ← h]

/-- The code of a message that comes in pieces is that of the whole message. -/
theorem finalize_update (k : MacKey) (message : Bytes) :
    ((ofKey k).update message).finalize = tag k.bytes message := by
  rw [finalize, update, ofKey, ← Sha256.Stream.update_append, ← Sha256.Stream.update_append,
    Sha256.Stream.finish_update_empty, Sha256.Stream.finish_update_empty, tag_eq_masked]

end Mac

end CipherMeter
