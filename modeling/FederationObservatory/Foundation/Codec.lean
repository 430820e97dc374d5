import FederationObservatory.Misc.ByteCodec
import FederationObservatory.Foundation.Bounds

/-!
# Encoder and decoder primitives

`Encoder` and `Decoder` (`codec.hpp`, `foundation.cpp`). Integers are little-endian; a string is
a 32-bit length and its bytes, and one longer than `maxStringFieldBytes` fails the encoder. A
double is the 64 bits of its representation. Every reader frames its writer.
-/

namespace FederationObservatory

open ByteCodec

/-- `double`, as its bit pattern. -/
structure Double where
  bits : UInt64 := 0
  deriving DecidableEq, Repr

namespace Double

/-- The bits below the sign. -/
def magnitude (d : Double) : Nat := (d.bits &&& 0x7FFFFFFFFFFFFFFF).toNat

def isNaN (d : Double) : Bool := decide (0x7FF0000000000000 < d.magnitude)

/-- A number that orders doubles as IEEE 754 does; both zeros are zero. -/
def rank (d : Double) : Int :=
  if d.bits &&& 0x8000000000000000 = 0 then d.magnitude else -(d.magnitude : Int)

/-- `==` on doubles. -/
def eq (a b : Double) : Bool := !a.isNaN && !b.isNaN && a.rank == b.rank

/-- `<` on doubles. -/
def lt (a b : Double) : Bool := !a.isNaN && !b.isNaN && decide (a.rank < b.rank)

/-- Only a NaN differs from itself. -/
theorem eq_self (d : Double) : d.eq d = !d.isNaN := by
  simp [eq]

end Double

abbrev Writer := Put Error
abbrev Reader (α : Type) := Get Error α

/-! ## Encoder -/

namespace Encoder

def u8 (v : UInt8) : Writer := [.plain (leBytes 1 v.toNat)]
def u16 (v : UInt16) : Writer := [.plain (leBytes 2 v.toNat)]
def u32 (v : UInt32) : Writer := [.plain (leBytes 4 v.toNat)]
def u64 (v : UInt64) : Writer := [.plain (leBytes 8 v.toNat)]
def i64 (v : Int64) : Writer := u64 v.toUInt64
def f64 (v : Double) : Writer := u64 v.bits
def boolean (v : Bool) : Writer := u8 (if v then 1 else 0)

/-- `static_cast<std::uint32_t>(values.size())`, written. -/
def size (n : Nat) : Writer := u32 (UInt32.ofNat n)

/-- `Encoder::str`. -/
def str (v : Text) : Writer :=
  if maxStringFieldBytes < v.length then
    [.failure ⟨.boundExceeded, .ofString "string field exceeds the maximum encoded length", []⟩]
  else [.guarded (leBytes 4 v.length ++ v)]

end Encoder

/-! ## Decoder -/

namespace Decoder

def truncated : Error := ⟨.protocolViolation, .ofString "decoder input truncated", []⟩

def oversized : Error :=
  ⟨.oversizedPayload, .ofString "decoder input exceeds the configured budget", []⟩

/-- `Decoder::need` and the read that follows it. -/
def raw (n : Nat) : Reader Bytes := Get.take truncated oversized n

/-- The next `k` bytes as a number. -/
def word (k : Nat) : Reader Nat := do
  let bytes ← raw k
  pure (leValue bytes)

def u8 : Reader UInt8 := UInt8.ofNat <$> word 1
def u16 : Reader UInt16 := UInt16.ofNat <$> word 2
def u32 : Reader UInt32 := UInt32.ofNat <$> word 4
def u64 : Reader UInt64 := UInt64.ofNat <$> word 8
def i64 : Reader Int64 := UInt64.toInt64 <$> u64
def f64 : Reader Double := Double.mk <$> u64

/-- `Decoder::boolean`. -/
def boolean : Reader Bool := do
  let raw ← u8
  Get.failIf (decide (1 < raw)) ⟨.protocolViolation, .ofString "boolean field is not 0 or 1", []⟩
  pure (raw == 1)

/-- `Decoder::str`. -/
def str : Reader Text := do
  let length ← u32
  Get.failIf (decide (maxStringFieldBytes < length.toNat))
    ⟨.boundExceeded, .ofString "encoded string field exceeds the maximum length", []⟩
  raw length.toNat

/-- A decoder over a buffer with a budget. -/
def start (data : Bytes) (maxBytes : Nat) : Cursor :=
  { rest := data.take maxBytes, overBudget := decide (maxBytes < data.length) }

end Decoder

/-! ## Framing -/

namespace Decoder

theorem frames_word (k n : Nat) (hn : n < 256 ^ k) (p : Writer)
    (hp : p.image = .ok (leBytes k n)) : Frames p (word k) (· = n) := by
  have htake : Frames p (raw k) (· = leBytes k n) := by
    have h : Frames p (Get.take truncated oversized (leBytes k n).length) (· = leBytes k n) :=
      Frames.take hp
    rwa [length_leBytes] at h
  rw [← List.append_nil p]
  exact htake.bind fun b hb => Frames.pure (by rw [hb, leValue_leBytes k n hn])

theorem frames_map {α β : Type} {p : Writer} {d : Reader α} {P : α → Prop} {Q : β → Prop}
    (f : α → β) (h : Frames p d P) (hPQ : ∀ a, P a → Q (f a)) : Frames p (f <$> d) Q := by
  rw [← List.append_nil p, map_eq_pure_bind]
  exact h.bind fun a ha => Frames.pure (hPQ a ha)

theorem frames_u8 (v : UInt8) : Frames (Encoder.u8 v) u8 (· = v) := by
  refine frames_map _ (frames_word 1 v.toNat ?_ _ (Put.image_plain _)) ?_
  · simpa using v.toNat_lt
  · rintro n rfl
    simp

theorem frames_u16 (v : UInt16) : Frames (Encoder.u16 v) u16 (· = v) := by
  refine frames_map _ (frames_word 2 v.toNat ?_ _ (Put.image_plain _)) ?_
  · simpa using v.toNat_lt
  · rintro n rfl
    simp

theorem frames_u32 (v : UInt32) : Frames (Encoder.u32 v) u32 (· = v) := by
  refine frames_map _ (frames_word 4 v.toNat ?_ _ (Put.image_plain _)) ?_
  · simpa using v.toNat_lt
  · rintro n rfl
    simp

theorem frames_u64 (v : UInt64) : Frames (Encoder.u64 v) u64 (· = v) := by
  refine frames_map _ (frames_word 8 v.toNat ?_ _ (Put.image_plain _)) ?_
  · simpa using v.toNat_lt
  · rintro n rfl
    simp

theorem frames_i64 (v : Int64) : Frames (Encoder.i64 v) i64 (· = v) := by
  refine frames_map _ (frames_u64 _) ?_
  rintro n rfl
  simp

theorem frames_f64 (v : Double) : Frames (Encoder.f64 v) f64 (· = v) := by
  refine frames_map _ (frames_u64 _) ?_
  rintro n rfl
  rfl

theorem frames_boolean (v : Bool) : Frames (Encoder.boolean v) boolean (· = v) := by
  rw [← List.append_nil (Encoder.boolean v)]
  refine (frames_u8 _).bind ?_
  rintro raw rfl
  exact Frames.failIf fun _ => Frames.pure (by cases v <;> rfl)

theorem frames_str (v : Text) : Frames (Encoder.str v) str (· = v) := by
  by_cases hlen : maxStringFieldBytes < v.length
  · intro bs hbs
    simp only [Encoder.str, if_pos hlen] at hbs
    exact absurd hbs (by simp [Put.image, Put.encode, ByteCodec.Encoder.write])
  · have hfit : v.length < 2 ^ 32 := by
      have : maxStringFieldBytes < 2 ^ 32 := by decide
      omega
    have hsplit : Frames (Encoder.u32 (UInt32.ofNat v.length) ++ [.guarded v]) str (· = v) := by
      refine (frames_u32 _).bind ?_
      rintro n rfl
      refine Frames.failIf fun _ => ?_
      have hn : (UInt32.ofNat v.length).toNat = v.length := UInt32.toNat_ofNat_of_lt' hfit
      rw [hn]
      exact Frames.take (Put.image_guarded v)
    intro bs hbs
    refine hsplit bs ?_
    rw [Put.image_append_eq_ok]
    refine ⟨leBytes 4 v.length, v, ?_, Put.image_guarded v, ?_⟩
    · rw [Encoder.u32, UInt32.toNat_ofNat_of_lt' hfit]
      exact Put.image_plain _
    · simp only [Encoder.str, if_neg hlen, Put.image_guarded] at hbs
      exact (Except.ok.inj hbs).symm

end Decoder

/-! ## Reading -/

namespace Decoder

theorem reads_word (k n : Nat) (hn : n < 256 ^ k) (p : Writer)
    (hp : p.image = .ok (leBytes k n)) : Reads p (word k) True n := by
  have htake : Reads p (raw k) True (leBytes k n) := by
    have h : Reads p (Get.take truncated oversized (leBytes k n).length) True (leBytes k n) :=
      Reads.take hp
    rwa [length_leBytes] at h
  have hmap := htake.map leValue
  rw [leValue_leBytes k n hn, map_eq_pure_bind] at hmap
  exact hmap

theorem reads_u8 (v : UInt8) : Reads (Encoder.u8 v) u8 True v := by
  have hword := (reads_word 1 v.toNat (by simpa using v.toNat_lt) _ (Put.image_plain _)).map
    UInt8.ofNat
  rwa [UInt8.ofNat_toNat] at hword

theorem reads_u16 (v : UInt16) : Reads (Encoder.u16 v) u16 True v := by
  have hword := (reads_word 2 v.toNat (by simpa using v.toNat_lt) _ (Put.image_plain _)).map
    UInt16.ofNat
  rwa [UInt16.ofNat_toNat] at hword

theorem reads_u32 (v : UInt32) : Reads (Encoder.u32 v) u32 True v := by
  have hword := (reads_word 4 v.toNat (by simpa using v.toNat_lt) _ (Put.image_plain _)).map
    UInt32.ofNat
  rwa [UInt32.ofNat_toNat] at hword

theorem reads_u64 (v : UInt64) : Reads (Encoder.u64 v) u64 True v := by
  have hword := (reads_word 8 v.toNat (by simpa using v.toNat_lt) _ (Put.image_plain _)).map
    UInt64.ofNat
  rwa [UInt64.ofNat_toNat] at hword

theorem reads_i64 (v : Int64) : Reads (Encoder.i64 v) i64 True v := by
  have hword := (reads_u64 v.toUInt64).map UInt64.toInt64
  rwa [Int64.toInt64_toUInt64] at hword

theorem reads_f64 (v : Double) : Reads (Encoder.f64 v) f64 True v := (reads_u64 v.bits).map Double.mk

theorem reads_boolean (v : Bool) : Reads (Encoder.boolean v) boolean True v := by
  have hpure : ∀ b : Bool, Reads ([] : Writer) (pure b) True b := Reads.pure
  rw [← List.append_nil (Encoder.boolean v)]
  cases v with
  | false => exact ((reads_u8 0).bind (Reads.failIf (hpure false))).congr (by decide)
  | true => exact ((reads_u8 1).bind (Reads.failIf (hpure true))).congr (by decide)

theorem reads_str (v : Text) : Reads (Encoder.str v) str True v := by
  by_cases hlen : maxStringFieldBytes < v.length
  · intro bs hbs
    simp only [Encoder.str, if_pos hlen] at hbs
    exact absurd hbs (by simp [Put.image, Put.encode, ByteCodec.Encoder.write])
  · have hfit : v.length < 2 ^ 32 := by
      have : maxStringFieldBytes < 2 ^ 32 := by decide
      omega
    have hn : (UInt32.ofNat v.length).toNat = v.length := UInt32.toNat_ofNat_of_lt' hfit
    have hsplit : Reads (Encoder.u32 (UInt32.ofNat v.length) ++ [.guarded v]) str True v := by
      refine ((reads_u32 _).bind (Reads.failIf (b := v) (Q := True) ?_)).congr ?_
      · rw [hn]
        exact Reads.take (Put.image_guarded v)
      · rw [hn]
        simp [hlen]
    intro bs hbs
    refine hsplit bs ?_
    rw [Put.image_append_eq_ok]
    refine ⟨leBytes 4 v.length, v, ?_, Put.image_guarded v, ?_⟩
    · rw [Encoder.u32, hn]
      exact Put.image_plain _
    · simp only [Encoder.str, if_neg hlen, Put.image_guarded] at hbs
      exact (Except.ok.inj hbs).symm

end Decoder

/-! ## Images are not empty -/

namespace Encoder

theorem nonempty_word (k n : Nat) (hk : 0 < k) :
    Put.Nonempty ([.plain (leBytes k n)] : Writer) := by
  intro bs hbs
  rw [Put.image_plain] at hbs
  obtain rfl := Except.ok.inj hbs
  exact List.ne_nil_of_length_pos (by rwa [length_leBytes])

/-- Only a string within the limit is encoded. -/
theorem length_of_str {v : Text} {bs : Bytes} (h : (str v).image = .ok bs) :
    v.length ≤ maxStringFieldBytes := by
  by_contra hlong
  simp only [str, if_pos (Nat.not_le.mp hlong)] at h
  exact absurd h (by simp [Put.image, Put.encode, ByteCodec.Encoder.write])

theorem succeeds_str {v : Text} (h : v.length ≤ maxStringFieldBytes) : Put.Succeeds (str v) := by
  rw [str, if_neg (Nat.not_lt.mpr h)]
  exact ⟨_, Put.image_guarded _⟩

theorem size_str_le (v : Text) : Put.size (str v) ≤ 4 + maxStringFieldBytes := by
  unfold str
  split
  · simp [Put.size]
  · simp only [Put.size, List.map_cons, List.map_nil, List.sum_cons, List.sum_nil,
      List.length_append, length_leBytes]
    omega

theorem nonempty_str (v : Text) : Put.Nonempty (str v) := by
  intro bs hbs
  unfold str at hbs
  split at hbs
  · exact absurd hbs (by simp [Put.image, Put.encode, ByteCodec.Encoder.write])
  · rw [Put.image_guarded] at hbs
    obtain rfl := Except.ok.inj hbs
    simp [leBytes]

end Encoder

/-! ## Checksum -/

/-- One round of the table construction. -/
def crcRound (c : UInt32) : UInt32 :=
  if c &&& 1 ≠ 0 then (0xEDB88320 : UInt32) ^^^ (c >>> 1) else c >>> 1

/-- An entry of `crc_table`. -/
def crcEntry (i : UInt32) : UInt32 := crcRound^[8] i

/-- `crc32`. -/
def crc32 (data : Bytes) : UInt32 :=
  data.foldl (fun crc b => crcEntry ((crc ^^^ b.toUInt32) &&& 0xFF) ^^^ (crc >>> 8)) 0xFFFFFFFF
    ^^^ 0xFFFFFFFF

end FederationObservatory
