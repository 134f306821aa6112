import Linkage.Json.Encoding
import Linkage.Proofs.Json.RoundTrip
/-!
Written documents as bytes. Written text is ASCII without null characters, so its bytes are taken for
UTF-8 and give the text again.
-/

namespace Linkage

theorem toList_loop (bytes : ByteArray) (index : Nat) (taken : List UInt8) :
    ByteArray.toList.loop bytes index taken = taken.reverse ++ bytes.data.toList.drop index := by
  fun_induction ByteArray.toList.loop bytes index taken with
  | case1 index taken inside ih =>
    have bound : index < bytes.data.toList.length := by simpa using inside
    rw [ih, List.drop_eq_getElem_cons bound]
    simp [ByteArray.get!, inside]
  | case2 index taken outside =>
    rw [List.drop_eq_nil_of_le (by simpa using outside), List.append_nil]

theorem toList_toByteArray (bytes : List UInt8) : bytes.toByteArray.toList = bytes := by
  rw [ByteArray.toList, toList_loop]
  simp

theorem toList_append (first second : ByteArray) :
    (first ++ second).toList = first.toList ++ second.toList := by
  simp [ByteArray.toList, toList_loop]

namespace Json

variable {chars : List Char} {text : String}

def byteOf (c : Char) : UInt8 := UInt8.ofNat c.toNat

theorem toNat_byteOf {c : Char} (ascii : c.toNat < 128) : (byteOf c).toNat = c.toNat := by
  rw [byteOf, UInt8.toNat_ofNat']
  omega

theorem toUTF8_ascii (ascii : ∀ c ∈ text.toList, c.toNat < 128) :
    text.toUTF8.toList = text.toList.map byteOf := by
  have encoded : ∀ chars : List Char, (∀ c ∈ chars, c.toNat < 128) →
      chars.flatMap String.utf8EncodeChar = chars.map byteOf := by
    intro chars ascii
    induction chars with
    | nil => rfl
    | cons c chars ih =>
      obtain ⟨first, later⟩ := List.forall_mem_cons.mp ascii
      have single : String.utf8EncodeChar c = [byteOf c] := if_pos (Nat.le_of_lt_succ first)
      rw [List.flatMap_cons, single, ih later]
      rfl
  rw [String.toUTF8, ← String.utf8Encode_toList, List.utf8Encode, toList_toByteArray,
    encoded _ ascii]

theorem decodeFrom_ascii (ascii : ∀ c ∈ chars, c.toNat < 128) (position : Nat) :
    Text.Utf8.decodeFrom position (chars.map byteOf) = .ok chars := by
  induction chars generalizing position with
  | nil => rfl
  | cons c chars ih =>
    obtain ⟨first, later⟩ := List.forall_mem_cons.mp ascii
    have small : byteOf c < 0x80 := by
      rw [UInt8.lt_iff_toNat_lt, toNat_byteOf first]
      exact first
    unfold Text.Utf8.decodeFrom
    simp only [List.map_cons, if_pos small, ih later, toNat_byteOf first, Char.ofNat_toNat]
    rfl

theorem ofBytes_nonzero {bytes : List UInt8} (some : ∀ byte ∈ bytes, byte ≠ 0) :
    Encoding.ofBytes bytes = .utf8 := by
  unfold Encoding.ofBytes
  split
  · simp_all
  · simp_all
  · rfl

/-- Text of ASCII characters is what its bytes are read as. -/
theorem textOfBytes?_ascii (ascii : ∀ c ∈ text.toList, 0 < c.toNat ∧ c.toNat < 128) :
    textOfBytes? text.toUTF8.toList = some text := by
  have small : ∀ c ∈ text.toList, c.toNat < 128 := fun c member => (ascii c member).2
  have low : ∀ byte ∈ text.toList.map byteOf, 0 < byte.toNat ∧ byte.toNat < 128 := by
    intro byte member
    obtain ⟨c, inside, rfl⟩ := List.mem_map.mp member
    rw [toNat_byteOf (small c inside)]
    exact ascii c inside
  have nonzero : ∀ byte ∈ text.toList.map byteOf, byte ≠ 0 := by
    rintro byte member rfl
    exact absurd (low 0 member).1 (by decide)
  have unmarked : ∀ rest, text.toList.map byteOf ≠ 0xEF :: 0xBB :: 0xBF :: rest := by
    intro rest same
    exact absurd (low 0xEF (same ▸ List.mem_cons_self)).2 (by decide)
  rw [toUTF8_ascii small, textOfBytes?, ofBytes_nonzero nonzero]
  · dsimp only
    rw [Text.Utf8.decode, decodeFrom_ascii small]
    simp [Except.map, Except.toOption]
  · exact unmarked

theorem Plain.textOfBytes?_render {json : Json} (plain : json.Plain) :
    textOfBytes? json.render.toUTF8.toList = some json.render :=
  textOfBytes?_ascii plain.ascii_render

end Json

end Linkage
