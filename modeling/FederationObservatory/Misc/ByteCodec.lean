import Mathlib

/-!
# Byte writers and byte readers

A writer (`Put`) is the list of writes an encoder is asked for, in order. An encoder that has
failed keeps the first failure: fixed-width integers are still appended after it, while
length-checked fields are skipped. A reader (`Get`) consumes a prefix of a byte string or fails.

`Frames p d Q` relates the two: whenever the reader `d` succeeds on the image of the writer `p`
followed by anything, it stops exactly where the image ends, and its result satisfies `Q`.
`Reads p d P a` says more: on the image of `p` the reader succeeds exactly when `P` holds, and its
result is then `a`. The rules below follow the shape of a codec: one field after the other, a test,
a counted loop.
-/

namespace ByteCodec

/-- A byte string on the wire. -/
abbrev Bytes := List UInt8

variable {ε α β σ : Type}

/-! ## Little-endian integers -/

/-- The `k` low bytes of a number, least significant first. -/
def leBytes : Nat → Nat → Bytes
  | 0, _ => []
  | k + 1, n => UInt8.ofNat n :: leBytes k (n / 256)

/-- The number a little-endian byte string stands for. -/
def leValue : Bytes → Nat
  | [] => 0
  | b :: bs => b.toNat + 256 * leValue bs

@[simp] theorem length_leBytes (k n : Nat) : (leBytes k n).length = k := by
  induction k generalizing n with
  | zero => rfl
  | succ k ih => simp [leBytes, ih]

theorem leValue_leBytes (k n : Nat) (h : n < 256 ^ k) : leValue (leBytes k n) = n := by
  induction k generalizing n with
  | zero =>
    have hn : n = 0 := by simpa using h
    simp [leBytes, leValue, hn]
  | succ k ih =>
    have hdiv : n / 256 < 256 ^ k := by
      rw [Nat.div_lt_iff_lt_mul (by decide)]
      rw [Nat.pow_succ] at h
      exact h
    simp only [leBytes, leValue, ih _ hdiv, UInt8.toNat_ofNat']
    omega

theorem leValue_lt (bs : Bytes) : leValue bs < 256 ^ bs.length := by
  induction bs with
  | nil => simp [leValue]
  | cons b bs ih =>
    have hb : b.toNat < 256 := b.toNat_lt
    simp only [leValue, List.length_cons, Nat.pow_succ]
    omega

theorem leBytes_leValue (bs : Bytes) : leBytes bs.length (leValue bs) = bs := by
  induction bs with
  | nil => rfl
  | cons b bs ih =>
    have hb : b.toNat < 256 := b.toNat_lt
    have hlow : UInt8.ofNat (b.toNat + 256 * leValue bs) = b := by
      apply UInt8.toNat_inj.mp
      rw [UInt8.toNat_ofNat']
      omega
    have hhigh : (b.toNat + 256 * leValue bs) / 256 = leValue bs := by omega
    simp only [List.length_cons, leBytes, leValue, hlow, hhigh, ih]

/-- The little-endian word of `k` bytes at an offset. -/
def readWord (k : Nat) (data : Bytes) (offset : Nat) : Nat :=
  leValue ((data.drop offset).take k)

/-- The word at the front. -/
theorem readWord_field {k : Nat} {field after : Bytes} (h : field.length = k) :
    readWord k (field ++ after) 0 = leValue field := by
  rw [readWord, List.drop_zero, List.take_left' h]

theorem readWord_front {k v : Nat} {after : Bytes} (hv : v < 256 ^ k) :
    readWord k (leBytes k v ++ after) 0 = v := by
  rw [readWord_field (length_leBytes k v), leValue_leBytes k v hv]

/-- The words after the first bytes. -/
theorem readWord_skip {k n i : Nat} {before after : Bytes} (hn : before.length = n) :
    readWord k (before ++ after) (n + i) = readWord k after i := by
  rw [readWord, ← hn, ← List.drop_drop, List.drop_left]
  rfl

/-! ## Writers -/

/-- One request to an encoder. -/
inductive Write (ε : Type) where
  /-- Appended whatever happened before. -/
  | plain (bytes : Bytes)
  /-- Appended only while nothing has failed. -/
  | guarded (bytes : Bytes)
  /-- Record a failure, unless one is recorded already. -/
  | failure (e : ε)

/-- A writer: the requests made to an encoder, in order. -/
abbrev Put (ε : Type) := List (Write ε)

/-- An encoder: what it holds and the first failure recorded. -/
structure Encoder (ε : Type) where
  buffer : Bytes := []
  error : Option ε := none

/-- One request. -/
def Encoder.write (out : Encoder ε) : Write ε → Encoder ε
  | .plain bs => { out with buffer := out.buffer ++ bs }
  | .guarded bs => if out.error.isSome then out else { out with buffer := out.buffer ++ bs }
  | .failure e => if out.error.isSome then out else { out with error := some e }

namespace Put

/-- Several writers, one after the other. -/
def seq (ps : List (Put ε)) : Put ε := ps.flatten

/-- The encoder after all the requests. -/
def encode (p : Put ε) (out : Encoder ε) : Encoder ε := p.foldl Encoder.write out

/-- What a writer produces: its bytes, or its first failure. -/
def image (p : Put ε) : Except ε Bytes :=
  match (p.encode {}).error with
  | some e => .error e
  | none => .ok (p.encode {}).buffer

theorem encode_append (p q : Put ε) (out : Encoder ε) :
    encode (p ++ q) out = encode q (encode p out) := by
  simp [encode]

/-- A recorded failure stays. -/
theorem encode_error_of_some (p : Put ε) (out : Encoder ε) (e : ε) (h : out.error = some e) :
    (encode p out).error = some e := by
  induction p generalizing out with
  | nil => exact h
  | cons w p ih =>
    apply ih
    cases w <;> simp [Encoder.write, h]

/-- An encoder that has not failed only prepends what it holds already. -/
theorem encode_of_none (p : Put ε) (b : Bytes) :
    (encode p ⟨b, none⟩).error = (encode p ⟨[], none⟩).error ∧
      ((encode p ⟨[], none⟩).error = none →
        (encode p ⟨b, none⟩).buffer = b ++ (encode p ⟨[], none⟩).buffer) := by
  induction p generalizing b with
  | nil => simp [encode]
  | cons w p ih =>
    have step : ∀ bs : Bytes,
        (encode p ⟨b ++ bs, none⟩).error = (encode p ⟨bs, none⟩).error ∧
          ((encode p ⟨bs, none⟩).error = none →
            (encode p ⟨b ++ bs, none⟩).buffer = b ++ (encode p ⟨bs, none⟩).buffer) := by
      intro bs
      obtain ⟨h1, h2⟩ := ih (b ++ bs)
      obtain ⟨h3, h4⟩ := ih bs
      refine ⟨h1.trans h3.symm, fun hn => ?_⟩
      rw [h3] at hn
      rw [h2 hn, h4 hn, List.append_assoc]
    cases w with
    | plain bs => simpa [encode, Encoder.write] using step bs
    | guarded bs => simpa [encode, Encoder.write] using step bs
    | failure e =>
      have hb := encode_error_of_some p ⟨b, some e⟩ e rfl
      have h0 := encode_error_of_some p ⟨[], some e⟩ e rfl
      simp only [encode, List.foldl_cons, Encoder.write, Option.isSome_none] at hb h0 ⊢
      exact ⟨hb.trans h0.symm, fun hn => absurd (h0.symm.trans hn) (by simp)⟩

theorem image_eq_ok {p : Put ε} {bs : Bytes} :
    p.image = .ok bs ↔ p.encode {} = ⟨bs, none⟩ := by
  unfold image
  cases h : p.encode {} with
  | mk buffer error => cases error <;> simp

/-- Writers compose: the image of two is the two images in order. -/
theorem image_append_eq_ok {p q : Put ε} {bs : Bytes} :
    image (p ++ q) = .ok bs ↔
      ∃ bp bq, p.image = .ok bp ∧ q.image = .ok bq ∧ bs = bp ++ bq := by
  simp only [image_eq_ok, encode_append]
  constructor
  · intro h
    cases hp : p.encode {} with
    | mk bp error =>
      cases error with
      | some e =>
        rw [hp] at h
        have := encode_error_of_some q ⟨bp, some e⟩ e rfl
        simp [h] at this
      | none =>
        rw [hp] at h
        obtain ⟨h1, h2⟩ := encode_of_none q bp
        rw [h] at h1
        have hn : (encode q ⟨[], none⟩).error = none := h1.symm
        have hb := h2 hn
        rw [h] at hb
        refine ⟨bp, (encode q ⟨[], none⟩).buffer, rfl, ?_, hb⟩
        cases hq : encode q ⟨[], none⟩ with
        | mk bq error =>
          rw [hq] at hn
          exact congrArg (Encoder.mk bq) hn
  · rintro ⟨bp, bq, hp, hq, rfl⟩
    have hq' : encode q ⟨[], none⟩ = ⟨bq, none⟩ := hq
    obtain ⟨h1, h2⟩ := encode_of_none q bp
    rw [hq'] at h1 h2
    rw [hp]
    cases h : encode q ⟨bp, none⟩ with
    | mk buffer error =>
      rw [h] at h1 h2
      have hb := h2 rfl
      simp only at h1 hb
      rw [h1, hb]

theorem image_nil : image ([] : Put ε) = .ok [] := rfl

/-- The bytes of a writer that does not fail. -/
def size (p : Put ε) : Nat :=
  (p.map fun
    | .plain bs => bs.length
    | .guarded bs => bs.length
    | .failure _ => 0).sum

theorem length_image {p : Put ε} {bs : Bytes} (h : p.image = .ok bs) : bs.length = p.size := by
  induction p generalizing bs with
  | nil =>
    obtain rfl := Except.ok.inj h
    rfl
  | cons w p ih =>
    obtain ⟨bw, bp, hw, hp, rfl⟩ := (image_append_eq_ok (p := [w])).mp h
    have hhead : bw.length = size [w] := by
      cases w with
      | plain bs =>
        obtain rfl := Except.ok.inj hw
        rfl
      | guarded bs =>
        obtain rfl := Except.ok.inj hw
        rfl
      | failure e => cases hw
    rw [List.length_append, hhead, ih hp]
    simp [size]

theorem size_append (p q : Put ε) : size (p ++ q) = size p + size q := by
  simp [size]

theorem size_flatMap_le {enc : β → Put ε} {xs : List β} {n : Nat}
    (h : ∀ x ∈ xs, size (enc x) ≤ n) : size (xs.flatMap enc) ≤ xs.length * n := by
  induction xs with
  | nil => simp [size]
  | cons x xs ih =>
    have hx := h x List.mem_cons_self
    have hxs := ih fun y hy => h y (List.mem_cons_of_mem x hy)
    rw [List.flatMap_cons, size_append, List.length_cons, Nat.add_mul, Nat.one_mul]
    omega

/-- A writer that does not fail. -/
def Succeeds (p : Put ε) : Prop := ∃ bs, p.image = .ok bs

theorem succeeds_append {p q : Put ε} : Succeeds (p ++ q) ↔ Succeeds p ∧ Succeeds q := by
  constructor
  · rintro ⟨bs, h⟩
    obtain ⟨bp, bq, hp, hq, -⟩ := image_append_eq_ok.mp h
    exact ⟨⟨bp, hp⟩, ⟨bq, hq⟩⟩
  · rintro ⟨⟨bp, hp⟩, ⟨bq, hq⟩⟩
    exact ⟨bp ++ bq, image_append_eq_ok.mpr ⟨bp, bq, hp, hq, rfl⟩⟩

theorem succeeds_nil : Succeeds ([] : Put ε) := ⟨[], image_nil⟩

theorem succeeds_flatMap {enc : β → Put ε} {xs : List β} (h : ∀ x ∈ xs, Succeeds (enc x)) :
    Succeeds (xs.flatMap enc) := by
  induction xs with
  | nil => exact succeeds_nil
  | cons x xs ih =>
    rw [List.flatMap_cons, succeeds_append]
    exact ⟨h x List.mem_cons_self, ih fun y hy => h y (List.mem_cons_of_mem x hy)⟩

theorem image_plain (bs : Bytes) : image [Write.plain (ε := ε) bs] = .ok bs := rfl

theorem image_guarded (bs : Bytes) : image [Write.guarded (ε := ε) bs] = .ok bs := rfl

/-- None of the requests is a failure. -/
def clean (p : Put ε) : Bool :=
  p.all fun
    | .failure _ => false
    | _ => true

theorem succeeds_of_clean {p : Put ε} (h : p.clean = true) : Succeeds p := by
  induction p with
  | nil => exact succeeds_nil
  | cons w p ih =>
    rw [clean, List.all_cons, Bool.and_eq_true] at h
    refine (succeeds_append (p := [w])).mpr ⟨?_, ih h.2⟩
    cases w with
    | plain bs => exact ⟨bs, image_plain bs⟩
    | guarded bs => exact ⟨bs, image_guarded bs⟩
    | failure e => exact absurd h.1 Bool.false_ne_true

theorem seq_cons (p : Put ε) (ps : List (Put ε)) : seq (p :: ps) = p ++ seq ps := rfl

theorem seq_nil : seq ([] : List (Put ε)) = [] := rfl

/-- A writer whose image is never empty. -/
def Nonempty (p : Put ε) : Prop := ∀ bs, p.image = .ok bs → bs ≠ []

theorem Nonempty.append_left {p : Put ε} (h : Nonempty p) (q : Put ε) : Nonempty (p ++ q) := by
  intro bs hbs
  obtain ⟨bp, bq, hp, -, rfl⟩ := image_append_eq_ok.mp hbs
  have := h bp hp
  simp [this]

/-- Writers that are never empty take at least one byte each. -/
theorem length_le_of_flatMap {enc : β → Put ε} (xs : List β)
    (hne : ∀ x ∈ xs, Nonempty (enc x)) {bs : Bytes}
    (h : image (xs.flatMap enc) = .ok bs) : xs.length ≤ bs.length := by
  induction xs generalizing bs with
  | nil => simp
  | cons x xs ih =>
    rw [List.flatMap_cons] at h
    obtain ⟨bx, brest, hx, hrest, rfl⟩ := image_append_eq_ok.mp h
    have h1 : bx ≠ [] := hne x (by simp) bx hx
    have h2 := ih (fun y hy => hne y (by simp [hy])) hrest
    have h3 : 0 < bx.length := List.length_pos_iff.mpr h1
    simp only [List.length_cons, List.length_append]
    omega

end Put

/-! ## Readers -/

/-- A reader's position: what is left, and whether the input was over its budget. -/
structure Cursor where
  rest : Bytes
  overBudget : Bool := false
  deriving DecidableEq, Repr

/-- A reader: it consumes a prefix of the input or fails. -/
abbrev Get (ε α : Type) := StateT Cursor (Except ε) α

namespace Get

/-- Fail. -/
def fail (e : ε) : Get ε α := fun _ => .error e

/-- Fail when the test says so. -/
def failIf (test : Bool) (e : ε) : Get ε Unit := if test then fail e else pure ()

/-- The next `n` bytes. Nothing can be read from an input over its budget. -/
def take (truncated oversized : ε) (n : Nat) : Get ε Bytes := fun c =>
  if c.overBudget then .error oversized
  else if c.rest.length < n then .error truncated
  else .ok (c.rest.take n, { c with rest := c.rest.drop n })

/-- `n` rounds of a loop over an accumulator. -/
def loop : Nat → (σ → Get ε σ) → σ → Get ε σ
  | 0, _, acc => pure acc
  | n + 1, body, acc => body acc >>= loop n body

/-- An outcome of the checks on a decoded value. -/
def ofExcept (r : Except ε α) : Get ε α := fun c => r.map (·, c)

theorem bind_eq_ok {d : Get ε α} {f : α → Get ε β} {c c' : Cursor} {b : β} :
    (d >>= f) c = .ok (b, c') ↔ ∃ a m, d c = .ok (a, m) ∧ f a m = .ok (b, c') := by
  simp only [bind, StateT.bind, Except.bind]
  cases h : d c with
  | error e => simp only [reduceCtorEq, false_and, exists_false]
  | ok r =>
    obtain ⟨a, m⟩ := r
    constructor
    · intro hrun
      exact ⟨a, m, rfl, hrun⟩
    · rintro ⟨a', m', heq, hrun⟩
      cases heq
      exact hrun

theorem pure_eq_ok {a b : α} {c c' : Cursor} :
    (pure a : Get ε α) c = .ok (b, c') ↔ a = b ∧ c = c' := by
  simp [pure, StateT.pure, Except.pure]

/-- What every round of a loop preserves holds at its end. -/
theorem loop_invariant {body : σ → Get ε σ} {I : σ → Prop}
    (hbody : ∀ acc c acc' c', I acc → body acc c = .ok (acc', c') → I acc') {n : Nat} {init : σ}
    {c c' : Cursor} {acc : σ} (hinit : I init) (h : loop n body init c = .ok (acc, c')) : I acc := by
  induction n generalizing init c with
  | zero => exact (pure_eq_ok.mp h).1 ▸ hinit
  | succ n ih =>
    obtain ⟨middle, m, hround, hrest⟩ := bind_eq_ok.mp h
    exact ih (hbody init c middle m hinit hround) hrest

end Get

/-- Whatever a reader is given, what it returns satisfies `Q`. -/
def Ensures (d : Get ε α) (Q : α → Prop) : Prop :=
  ∀ c a c', d c = .ok (a, c') → Q a

namespace Ensures

theorem pure {a : α} {Q : α → Prop} (h : Q a) : Ensures (pure a : Get ε α) Q := by
  intro c a' c' hrun
  rw [← (Get.pure_eq_ok.mp hrun).1]
  exact h

theorem bind {d : Get ε α} {f : α → Get ε β} {P : α → Prop} {Q : β → Prop} (hd : Ensures d P)
    (hf : ∀ a, P a → Ensures (f a) Q) : Ensures (d >>= f) Q := by
  intro c b c' hrun
  obtain ⟨a, m, hda, hfa⟩ := Get.bind_eq_ok.mp hrun
  exact hf a (hd c a m hda) m b c' hfa

/-- A field that `Q` does not depend on. -/
theorem skip {d : Get ε α} {f : α → Get ε β} {Q : β → Prop} (hf : ∀ a, Ensures (f a) Q) :
    Ensures (d >>= f) Q :=
  bind (P := fun _ => True) (fun _ _ _ _ => trivial) fun a _ => hf a

/-- A test that was passed. -/
theorem failIf {test : Bool} {e : ε} {f : Unit → Get ε β} {Q : β → Prop}
    (hf : test = false → Ensures (f ()) Q) : Ensures (Get.failIf test e >>= f) Q := by
  cases test with
  | true =>
    intro c b c' hrun
    obtain ⟨a, m, hfail, -⟩ := Get.bind_eq_ok.mp hrun
    cases hfail
  | false => exact skip fun _ => hf rfl

end Ensures

/-! ## Framing -/

/-- A reader that succeeds on the image of a writer stops where the image ends, with a result
    that satisfies `Q`. Images of 4 GiB and more are left out: a 32-bit count cannot describe
    them. -/
def Frames (p : Put ε) (d : Get ε α) (Q : α → Prop) : Prop :=
  ∀ bs, p.image = .ok bs → bs.length < 2 ^ 32 →
    ∀ rest flag a c, d ⟨bs ++ rest, flag⟩ = .ok (a, c) → c = ⟨rest, flag⟩ ∧ Q a

namespace Frames

theorem mono {p : Put ε} {d : Get ε α} {P Q : α → Prop} (h : Frames p d P)
    (hPQ : ∀ a, P a → Q a) : Frames p d Q := by
  intro bs hbs hlen rest flag a c hd
  obtain ⟨hc, ha⟩ := h bs hbs hlen rest flag a c hd
  exact ⟨hc, hPQ a ha⟩

/-- One field after the other. -/
theorem bind {p q : Put ε} {d : Get ε α} {f : α → Get ε β} {P : α → Prop} {Q : β → Prop}
    (hd : Frames p d P) (hf : ∀ a, P a → Frames q (f a) Q) : Frames (p ++ q) (d >>= f) Q := by
  intro bs hbs hlen rest flag b c hrun
  obtain ⟨bp, bq, hp, hq, rfl⟩ := Put.image_append_eq_ok.mp hbs
  obtain ⟨a, m, hda, hfa⟩ := Get.bind_eq_ok.mp hrun
  rw [List.length_append] at hlen
  rw [List.append_assoc] at hda
  obtain ⟨rfl, hP⟩ := hd bp hp (by omega) (bq ++ rest) flag a m hda
  exact hf a hP bq hq (by omega) rest flag b c hfa

/-- The first of a sequence of fields. -/
theorem field {p : Put ε} {ps : List (Put ε)} {d : Get ε α} {f : α → Get ε β} {P : α → Prop}
    {Q : β → Prop} (hd : Frames p d P) (hf : ∀ a, P a → Frames (Put.seq ps) (f a) Q) :
    Frames (Put.seq (p :: ps)) (d >>= f) Q := by
  rw [Put.seq_cons]
  exact hd.bind hf

/-- Nothing is left to write and nothing is read. -/
theorem pure {a : α} {Q : α → Prop} (h : Q a) : Frames (Put.seq ([] : List (Put ε))) (pure a) Q := by
  intro bs hbs _ rest flag b c hrun
  have hnil : bs = [] := by
    rw [Put.seq_nil, Put.image_nil] at hbs
    simpa using hbs.symm
  obtain ⟨rfl, rfl⟩ := Get.pure_eq_ok.mp hrun
  exact ⟨by simp [hnil], h⟩

/-- A test that reads nothing. -/
theorem failIf {test : Bool} {e : ε} {p : Put ε} {f : Unit → Get ε β} {Q : β → Prop}
    (hf : test = false → Frames p (f ()) Q) : Frames p (Get.failIf test e >>= f) Q := by
  intro bs hbs hlen rest flag b c hrun
  obtain ⟨u, m, htest, hrest⟩ := Get.bind_eq_ok.mp hrun
  cases test with
  | true => simp [Get.failIf, Get.fail] at htest
  | false =>
    obtain ⟨-, rfl⟩ := Get.pure_eq_ok.mp (by simpa [Get.failIf] using htest)
    exact hf rfl bs hbs hlen rest flag b c hrest

/-- A check on a decoded value, which reads nothing. -/
theorem ofExcept {r : Except ε α} {p : Put ε} {f : α → Get ε β} {Q : β → Prop}
    (hf : ∀ a, r = .ok a → Frames p (f a) Q) : Frames p (Get.ofExcept r >>= f) Q := by
  intro bs hbs hlen rest flag b c hrun
  obtain ⟨a, m, hr, hrest⟩ := Get.bind_eq_ok.mp hrun
  cases r with
  | error e => simp [Get.ofExcept, Except.map] at hr
  | ok a' =>
    simp only [Get.ofExcept, Except.map, Except.ok.injEq, Prod.mk.injEq] at hr
    obtain ⟨rfl, rfl⟩ := hr
    exact hf a' rfl bs hbs hlen rest flag b c hrest

/-- A fixed number of bytes. -/
theorem take {truncated oversized : ε} {p : Put ε} {b : Bytes} (hp : p.image = .ok b) :
    Frames p (Get.take truncated oversized b.length) (· = b) := by
  intro bs hbs _ rest flag a c hrun
  obtain rfl : b = bs := by rw [hp] at hbs; simpa using hbs
  unfold Get.take at hrun
  split at hrun
  · simp at hrun
  · split at hrun
    · simp at hrun
    · simp only [List.take_left', List.drop_left', Except.ok.injEq, Prod.mk.injEq] at hrun
      exact ⟨hrun.2.symm, hrun.1.symm⟩

/-- A counted loop. `P` relates the elements still to be read to the accumulator. -/
theorem loop {enc : β → Put ε} {body : σ → Get ε σ} {P : List β → σ → Prop}
    (hbody : ∀ x xs acc, P (x :: xs) acc → Frames (enc x) (body acc) (P xs))
    (xs : List β) (acc : σ) (h : P xs acc) :
    Frames (xs.flatMap enc) (Get.loop xs.length body acc) (P []) := by
  induction xs generalizing acc with
  | nil => exact Frames.pure h
  | cons x xs ih =>
    rw [List.flatMap_cons, List.length_cons]
    exact (hbody x xs acc h).bind fun acc' h' => ih acc' h'

end Frames

/-! ## Reading -/

/-- On the image of a writer, followed by anything, a reader succeeds when `P` holds, reads `a` and
    stops where the image ends. It succeeds only then if the image is below 4 GiB: the 32-bit count
    of a longer one may be that of another list. -/
def Reads (p : Put ε) (d : Get ε α) (P : Prop) (a : α) : Prop :=
  ∀ bs, p.image = .ok bs → ∀ rest,
    (P → d ⟨bs ++ rest, false⟩ = .ok (a, ⟨rest, false⟩)) ∧
      (bs.length < 2 ^ 32 → ∀ v c, d ⟨bs ++ rest, false⟩ = .ok (v, c) → P)

namespace Reads

theorem congr {p : Put ε} {d : Get ε α} {P Q : Prop} {a : α} (h : Reads p d P a) (hPQ : P ↔ Q) :
    Reads p d Q a := by
  intro bs hbs rest
  obtain ⟨hok, hfails⟩ := h bs hbs rest
  exact ⟨fun hQ => hok (hPQ.mpr hQ), fun hlen v c hv => hPQ.mp (hfails hlen v c hv)⟩

/-- The result matters only where there is one. -/
theorem of_eq {p : Put ε} {d : Get ε α} {P : Prop} {a b : α} (h : Reads p d P a)
    (hab : P → a = b) : Reads p d P b := by
  intro bs hbs rest
  obtain ⟨hok, hfails⟩ := h bs hbs rest
  exact ⟨fun hP => hab hP ▸ hok hP, hfails⟩

/-- One field after the other. -/
theorem bind {p q : Put ε} {d : Get ε α} {f : α → Get ε β} {P Q : Prop} {a : α} {b : β}
    (hd : Reads p d P a) (hf : Reads q (f a) Q b) : Reads (p ++ q) (d >>= f) (P ∧ Q) b := by
  intro bs hbs rest
  obtain ⟨bp, bq, hp, hq, rfl⟩ := Put.image_append_eq_ok.mp hbs
  obtain ⟨hokd, hfailsd⟩ := hd bp hp (bq ++ rest)
  obtain ⟨hokf, hfailsf⟩ := hf bq hq rest
  rw [List.append_assoc]
  constructor
  · rintro ⟨hP, hQ⟩
    exact Get.bind_eq_ok.mpr ⟨a, _, hokd hP, hokf hQ⟩
  · intro hlen v c hrun
    rw [List.length_append] at hlen
    obtain ⟨a', m, hda, hfa⟩ := Get.bind_eq_ok.mp hrun
    have hP := hfailsd (by omega) a' m hda
    rw [hokd hP] at hda
    obtain ⟨rfl, rfl⟩ := Prod.mk.injEq .. |>.mp (Except.ok.inj hda)
    exact ⟨hP, hfailsf (by omega) v c hfa⟩

/-- The first of a sequence of fields. -/
theorem field {p : Put ε} {ps : List (Put ε)} {d : Get ε α} {f : α → Get ε β} {P Q : Prop} {a : α}
    {b : β} (hd : Reads p d P a) (hf : Reads (Put.seq ps) (f a) Q b) :
    Reads (Put.seq (p :: ps)) (d >>= f) (P ∧ Q) b := by
  rw [Put.seq_cons]
  exact hd.bind hf

/-- Nothing is left to write and nothing is read. -/
theorem pure (a : α) : Reads (Put.seq ([] : List (Put ε))) (pure a) True a := by
  intro bs hbs rest
  have hnil : bs = [] := by
    rw [Put.seq_nil, Put.image_nil] at hbs
    exact (Except.ok.inj hbs).symm
  rw [hnil]
  exact ⟨fun _ => rfl, fun _ _ _ _ => trivial⟩

/-- A reader that fails whatever it finds. -/
theorem fail (p : Put ε) (e : ε) (a : α) : Reads p (Get.fail e) False a :=
  fun _ _ _ => ⟨fun h => h.elim, fun _ _ _ h => by cases h⟩

/-- A reader whose result is passed on. -/
theorem map {p : Put ε} {d : Get ε α} {P : Prop} {a : α} (f : α → β) (h : Reads p d P a) :
    Reads p (f <$> d) P (f a) := by
  rw [← List.append_nil p, map_eq_pure_bind]
  exact (h.bind (Reads.pure (f a))).congr (by simp)

/-- A test that reads nothing. -/
theorem failIf {test : Bool} {e : ε} {p : Put ε} {f : Unit → Get ε β} {Q : Prop} {b : β}
    (hf : Reads p (f ()) Q b) : Reads p (Get.failIf test e >>= f) (test = false ∧ Q) b := by
  intro bs hbs rest
  obtain ⟨hok, hfails⟩ := hf bs hbs rest
  cases test with
  | true =>
    refine ⟨fun h => (by cases h.1), fun _ v c hrun => ?_⟩
    obtain ⟨u, m, htest, -⟩ := Get.bind_eq_ok.mp hrun
    cases htest
  | false =>
    have hskip : (Get.failIf false e >>= f) ⟨bs ++ rest, false⟩ = f () ⟨bs ++ rest, false⟩ := rfl
    rw [hskip]
    exact ⟨fun h => hok h.2, fun hlen v c hrun => ⟨rfl, hfails hlen v c hrun⟩⟩

/-- A check on what has been read. -/
theorem ofExcept {r : Except ε α} {a : α} {p : Put ε} {f : α → Get ε β} {Q : Prop} {b : β}
    (hr : ∀ a', r = .ok a' → a' = a) (hf : Reads p (f a) Q b) :
    Reads p (Get.ofExcept r >>= f) (r = .ok a ∧ Q) b := by
  intro bs hbs rest
  obtain ⟨hok, hfails⟩ := hf bs hbs rest
  cases r with
  | error e =>
    refine ⟨fun h => (by cases h.1), fun _ v c hrun => ?_⟩
    obtain ⟨u, m, htest, -⟩ := Get.bind_eq_ok.mp hrun
    cases htest
  | ok a' =>
    obtain rfl := hr a' rfl
    have hskip : (Get.ofExcept (.ok a') >>= f) ⟨bs ++ rest, false⟩ = f a' ⟨bs ++ rest, false⟩ := rfl
    rw [hskip]
    exact ⟨fun h => hok h.2, fun hlen v c hrun => ⟨rfl, hfails hlen v c hrun⟩⟩

/-- A fixed number of bytes. -/
theorem take {truncated oversized : ε} {p : Put ε} {b : Bytes} (hp : p.image = .ok b) :
    Reads p (Get.take truncated oversized b.length) True b := by
  intro bs hbs rest
  obtain rfl : b = bs := Except.ok.inj (hp.symm.trans hbs)
  refine ⟨fun _ => ?_, fun _ _ _ _ => trivial⟩
  have hfits : ¬(b ++ rest).length < b.length := by simp
  simp only [Get.take, Bool.false_eq_true, if_false, hfits, List.take_left', List.drop_left']

/-- A counted loop over elements that satisfy `P`. `step` says what one round makes of the
    accumulator, if anything. -/
theorem loop {enc : β → Put ε} {body : σ → Get ε σ} {P : β → Prop} {step : σ → β → Option σ}
    (hbody : ∀ x acc, Reads (enc x) (body acc) (P x ∧ (step acc x).isSome = true)
      ((step acc x).getD acc)) (xs : List β) (acc : σ) :
    Reads (xs.flatMap enc) (Get.loop xs.length body acc)
      ((∀ x ∈ xs, P x) ∧ (xs.foldlM step acc).isSome = true) ((xs.foldlM step acc).getD acc) := by
  induction xs generalizing acc with
  | nil => exact (Reads.pure acc).congr (by simp [Option.pure_def])
  | cons x xs ih =>
    rw [List.flatMap_cons, List.length_cons, List.foldlM_cons]
    have hround := hbody x acc
    cases hstep : step acc x with
    | none =>
      rw [hstep] at hround
      refine ((hround.bind (ih acc)).congr ?_).of_eq ?_
      · simp
      · simp
    | some acc' =>
      rw [hstep] at hround
      refine ((hround.bind (ih acc')).congr ?_).of_eq ?_
      · simp [and_assoc]
      · intro hsome
        obtain ⟨out, hout⟩ := Option.isSome_iff_exists.mp hsome.2
        have hrest : xs.foldlM step acc' = some out := hout
        simp [hrest]

/-- A counted loop that appends what it reads. -/
theorem loop_append {enc : β → Put ε} {dec : Get ε α} {P : β → Prop} {g : β → α}
    (hdec : ∀ x, Reads (enc x) dec (P x) (g x)) (xs : List β) (acc : List α) :
    Reads (xs.flatMap enc)
      (Get.loop xs.length (fun values => do let value ← dec; return values ++ [value]) acc)
      (∀ x ∈ xs, P x) (acc ++ xs.map g) := by
  induction xs generalizing acc with
  | nil =>
    rw [List.map_nil, List.append_nil]
    exact (Reads.pure acc).congr (by simp)
  | cons x xs ih =>
    rw [List.flatMap_cons, List.length_cons, List.map_cons]
    have hround : Reads (enc x) (do let value ← dec; return acc ++ [value]) (P x) (acc ++ [g x]) := by
      rw [← List.append_nil (enc x)]
      exact ((hdec x).bind (Reads.pure (acc ++ [g x]))).congr (by simp)
    have hrest := hround.bind (ih (acc ++ [g x]))
    rw [List.append_assoc] at hrest
    exact hrest.congr List.forall_mem_cons.symm

end Reads

end ByteCodec
