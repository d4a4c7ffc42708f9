import GoPlugin.ByteString

/-!
# Unpadded base64

`base64.RawStdEncoding`: three bytes are four groups of six bits, and each group is a symbol.
One byte at the end is two groups and two bytes are three, filled up with zero bits.  The decoder
skips line breaks and ignores the bits that fill up.
-/

namespace ByteString

/-- The symbol of a group of six bits. -/
def base64Symbol (n : Nat) : UInt8 :=
  if n < 26 then UInt8.ofNat (65 + n)
  else if n < 52 then UInt8.ofNat (71 + n)
  else if n < 62 then UInt8.ofNat (n - 4)
  else if n = 62 then 43
  else 47

/-- The group that a symbol stands for. -/
def base64Value (c : UInt8) : Option Nat :=
  if 65 ≤ c.toNat ∧ c.toNat ≤ 90 then some (c.toNat - 65)
  else if 97 ≤ c.toNat ∧ c.toNat ≤ 122 then some (c.toNat - 71)
  else if 48 ≤ c.toNat ∧ c.toNat ≤ 57 then some (c.toNat + 4)
  else if c = 43 then some 62
  else if c = 47 then some 63
  else none

/-- The groups of six bits. -/
def sextets : ByteString → List Nat
  | [] => []
  | [a] => [a.toNat / 4, a.toNat % 4 * 16]
  | [a, b] => [a.toNat / 4, a.toNat % 4 * 16 + b.toNat / 16, b.toNat % 16 * 4]
  | a :: b :: c :: s =>
      a.toNat / 4 :: (a.toNat % 4 * 16 + b.toNat / 16) :: (b.toNat % 16 * 4 + c.toNat / 64) ::
        c.toNat % 64 :: sextets s

/-- The bytes of groups; a single group at the end is not a byte. -/
def octets : List Nat → Option ByteString
  | [] => some []
  | [_] => none
  | [p, q] => some [UInt8.ofNat (p * 4 + q / 16)]
  | [p, q, r] => some [UInt8.ofNat (p * 4 + q / 16), UInt8.ofNat (q % 16 * 16 + r / 4)]
  | p :: q :: r :: t :: groups =>
      (octets groups).map fun s =>
        UInt8.ofNat (p * 4 + q / 16) :: UInt8.ofNat (q % 16 * 16 + r / 4) ::
          UInt8.ofNat (r % 4 * 64 + t) :: s

/-- The groups of a string of symbols; `none` where another byte is among them. -/
def base64Groups : ByteString → Option (List Nat)
  | [] => some []
  | c :: s => (base64Value c).bind fun n => (base64Groups s).map (n :: ·)

/-- `base64.RawStdEncoding.EncodeToString`. -/
def base64Encode (s : ByteString) : ByteString := (sextets s).map base64Symbol

/-- `base64.RawStdEncoding.DecodeString`; `none` on its errors. -/
def base64Decode (s : ByteString) : Option ByteString :=
  (base64Groups (s.filter fun c => c != 10 && c != 13)).bind octets

theorem sextets_lt (s : ByteString) : ∀ n ∈ sextets s, n < 64 := by
  induction s using sextets.induct with
  | case1 => simp [sextets]
  | case2 a =>
      have ha := a.toNat_lt
      simp only [sextets, List.forall_mem_cons]
      exact ⟨by omega, by omega, List.forall_mem_nil _⟩
  | case3 a b =>
      have ha := a.toNat_lt
      have hb := b.toNat_lt
      simp only [sextets, List.forall_mem_cons]
      exact ⟨by omega, by omega, by omega, List.forall_mem_nil _⟩
  | case4 a b c s ih =>
      have ha := a.toNat_lt
      have hb := b.toNat_lt
      have hc := c.toNat_lt
      simp only [sextets, List.forall_mem_cons]
      exact ⟨by omega, by omega, by omega, by omega, ih⟩

/-- The byte with a given value. -/
theorem ofNat_eq_of_toNat {n : Nat} {c : UInt8} (h : n = c.toNat) : UInt8.ofNat n = c := by
  rw [h, UInt8.ofNat_toNat]

theorem octets_sextets (s : ByteString) : octets (sextets s) = some s := by
  induction s using sextets.induct with
  | case1 => rfl
  | case2 a =>
      have ha := a.toNat_lt
      simp only [sextets, octets]
      rw [ofNat_eq_of_toNat (c := a) (by omega)]
  | case3 a b =>
      have ha := a.toNat_lt
      have hb := b.toNat_lt
      simp only [sextets, octets]
      rw [ofNat_eq_of_toNat (c := a) (by omega), ofNat_eq_of_toNat (c := b) (by omega)]
  | case4 a b c s ih =>
      have ha := a.toNat_lt
      have hb := b.toNat_lt
      have hc := c.toNat_lt
      simp only [sextets, octets, ih, Option.map_some]
      rw [ofNat_eq_of_toNat (c := a) (by omega), ofNat_eq_of_toNat (c := b) (by omega),
        ofNat_eq_of_toNat (c := c) (by omega)]

theorem base64Value_symbol : ∀ n < 64, base64Value (base64Symbol n) = some n := by decide

theorem base64Groups_symbols (groups : List Nat) (h : ∀ n ∈ groups, n < 64) :
    base64Groups (groups.map base64Symbol) = some groups := by
  induction groups with
  | nil => rfl
  | cons n groups ih =>
      simp only [List.map_cons, base64Groups, base64Value_symbol n (h n List.mem_cons_self),
        Option.bind_some, ih fun m hm => h m (List.mem_cons_of_mem n hm), Option.map_some]

theorem mem_base64Encode {s : ByteString} {c : UInt8} (h : c ∈ base64Encode s) :
    ∃ n < 64, c = base64Symbol n := by
  obtain ⟨n, hn, rfl⟩ := List.mem_map.mp h
  exact ⟨n, sextets_lt s n hn, rfl⟩

/-- **Decoding undoes encoding.** -/
@[simp] theorem base64Decode_encode (s : ByteString) : base64Decode (base64Encode s) = some s := by
  have hbreaks : ∀ n < 64, (base64Symbol n != 10 && base64Symbol n != 13) = true := by decide
  have hfilter : (base64Encode s).filter (fun c => c != 10 && c != 13) = base64Encode s := by
    refine List.filter_eq_self.mpr fun c hc => ?_
    obtain ⟨n, hn, rfl⟩ := mem_base64Encode hc
    exact hbreaks n hn
  rw [base64Decode, hfilter, base64Encode, base64Groups_symbols _ (sextets_lt s),
    Option.bind_some, octets_sextets]

example : base64Encode [77, 97, 110, 77] = [84, 87, 70, 117, 84, 81] := by decide
example : base64Decode [84, 87, 10, 70, 117, 84, 82] = some [77, 97, 110, 77] := by decide
example : (base64Decode [84], base64Decode [84, 81, 61]) = (none, none) := by decide

end ByteString
