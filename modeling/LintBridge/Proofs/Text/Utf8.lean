-- SUMMARY: UTF-8 bytes are read back as the text they encode, and only as that.
import LintBridge.Text.Utf16
import LintBridge.Text.Utf8

/-!
# UTF-8 read back

Both readings of the bytes of a text give the text. When the strict reading accepts bytes, they are the
bytes of what it gives: there is one way to write a text.
-/

namespace LintBridge.Text.Utf8

/-! ## Characters and their bytes -/

theorem toNat_ofNat {n : Nat} (h : n < 0xD800 ∨ 0xDFFF < n ∧ n < 0x110000) : (Char.ofNat n).toNat = n := by
  have hvalid : n.isValidChar := h
  rw [Char.ofNat, dif_pos hvalid]
  rfl

theorem encodeChar_ascii {c : Char} (h : c.toNat < 0x80) :
    String.utf8EncodeChar c = [UInt8.ofNat c.toNat] := by
  simp [String.utf8EncodeChar, show c.toNat ≤ 0x7F by omega]

theorem encodeChar_two {c : Char} (h : 0x80 ≤ c.toNat) (h' : c.toNat < 0x800) :
    String.utf8EncodeChar c = [UInt8.ofNat (c.toNat / 64 + 0xC0), UInt8.ofNat (c.toNat % 64 + 0x80)] := by
  have hdiv : c.toNat / 64 % 32 = c.toNat / 64 := by omega
  simp [String.utf8EncodeChar, show ¬ c.toNat ≤ 0x7F by omega, show c.toNat ≤ 0x7FF by omega, hdiv]

theorem encodeChar_three {c : Char} (h : 0x800 ≤ c.toNat) (h' : c.toNat < 0x10000) :
    String.utf8EncodeChar c = [UInt8.ofNat (c.toNat / 4096 + 0xE0),
      UInt8.ofNat (c.toNat / 64 % 64 + 0x80), UInt8.ofNat (c.toNat % 64 + 0x80)] := by
  have hdiv : c.toNat / 4096 % 16 = c.toNat / 4096 := by omega
  simp [String.utf8EncodeChar, show ¬ c.toNat ≤ 0x7F by omega, show ¬ c.toNat ≤ 0x7FF by omega,
    show c.toNat ≤ 0xFFFF by omega, hdiv]

theorem encodeChar_four {c : Char} (h : 0x10000 ≤ c.toNat) :
    String.utf8EncodeChar c = [UInt8.ofNat (c.toNat / 262144 + 0xF0),
      UInt8.ofNat (c.toNat / 4096 % 64 + 0x80), UInt8.ofNat (c.toNat / 64 % 64 + 0x80),
      UInt8.ofNat (c.toNat % 64 + 0x80)] := by
  have hvalid := toNat_valid c
  have hdiv : c.toNat / 262144 % 8 = c.toNat / 262144 := by omega
  simp [String.utf8EncodeChar, show ¬ c.toNat ≤ 0x7F by omega, show ¬ c.toNat ≤ 0x7FF by omega,
    show ¬ c.toNat ≤ 0xFFFF by omega, hdiv]

/-! ## First bytes -/

theorem first_ascii {b : Nat} (h : b < 0x80) : first b = ([some (Char.ofNat b)], .idle) := by
  simp [first, h]

theorem first_two {b : Nat} (h : 0xC2 ≤ b) (h' : b < 0xE0) :
    first b = ([], .within 0 0x80 0xBF (b - 0xC0)) := by
  simp [first, show ¬ b < 0x80 by omega, show ¬ b < 0xC2 by omega, h']

theorem first_three {b : Nat} (h : 0xE0 ≤ b) (h' : b < 0xF0) :
    first b = ([], .within 1 (if b = 0xE0 then 0xA0 else 0x80) (if b = 0xED then 0x9F else 0xBF)
      (b - 0xE0)) := by
  unfold first
  grind

theorem first_four {b : Nat} (h : 0xF0 ≤ b) (h' : b ≤ 0xF4) :
    first b = ([], .within 2 (if b = 0xF0 then 0x90 else 0x80) (if b = 0xF4 then 0x8F else 0xBF)
      (b - 0xF0)) := by
  unfold first
  grind

/-- All other bytes begin no character. -/
theorem first_malformed {b : Nat} (h : 0x80 ≤ b) (h' : b < 0xC2 ∨ 0xF4 < b) : first b = ([none], .idle) := by
  unfold first
  grind

/-! ## Steps of the reader -/

theorem partsFrom_cons (state : State) (b : UInt8) (rest : List UInt8) :
    partsFrom state (b :: rest) =
      (step state b.toNat).1 ++ partsFrom (step state b.toNat).2 rest := by
  cases state <;> rfl

theorem partsFrom_last {low high bits : Nat} {b : UInt8} (h : low ≤ b.toNat) (h' : b.toNat ≤ high)
    (rest : List UInt8) :
    partsFrom (.within 0 low high bits) (b :: rest) =
      some (Char.ofNat (bits * 0x40 + (b.toNat - 0x80))) :: partsFrom .idle rest := by
  simp [partsFrom_cons, step, h, h']

theorem partsFrom_more {owed low high bits : Nat} {b : UInt8} (h : low ≤ b.toNat) (h' : b.toNat ≤ high)
    (rest : List UInt8) :
    partsFrom (.within (owed + 1) low high bits) (b :: rest) =
      partsFrom (.within owed 0x80 0xBF (bits * 0x40 + (b.toNat - 0x80))) rest := by
  simp [partsFrom_cons, step, h, h']

/-- The bytes of a character are read as that character. -/
theorem partsFrom_encodeChar (c : Char) (rest : List UInt8) :
    partsFrom .idle (String.utf8EncodeChar c ++ rest) = some c :: partsFrom .idle rest := by
  have hvalid := toNat_valid c
  have hc := Char.ofNat_toNat c
  have hbyte {n : Nat} (h : n < 0x100) : (UInt8.ofNat n).toNat = n := by simp; omega
  have hlow (n : Nat) : 0x80 ≤ (UInt8.ofNat (n % 64 + 0x80)).toNat := by rw [hbyte] <;> omega
  have hhigh (n : Nat) : (UInt8.ofNat (n % 64 + 0x80)).toNat ≤ 0xBF := by rw [hbyte] <;> omega
  generalize hn : c.toNat = n at *
  by_cases hascii : n < 0x80
  · rw [encodeChar_ascii (by omega), hn, List.singleton_append, partsFrom_cons, step, hbyte (by omega),
      first_ascii hascii, hc]
    rfl
  by_cases htwo : n < 0x800
  · have hbits : (n / 64 + 0xC0 - 0xC0) * 0x40 + (n % 64 + 0x80 - 0x80) = n := by omega
    rw [encodeChar_two (by omega) (by omega), hn]
    simp only [List.cons_append, List.nil_append]
    rw [partsFrom_cons, step, hbyte (by omega), first_two (by omega) (by omega), List.nil_append,
      partsFrom_last (hlow n) (hhigh n), hbyte (by omega), hbits, hc]
  by_cases hthree : n < 0x10000
  · have hbits : ((n / 4096 + 0xE0 - 0xE0) * 0x40 + (n / 64 % 64 + 0x80 - 0x80)) * 0x40 +
        (n % 64 + 0x80 - 0x80) = n := by omega
    rw [encodeChar_three (by omega) (by omega), hn]
    simp only [List.cons_append, List.nil_append]
    rw [partsFrom_cons, step, hbyte (by omega), first_three (by omega) (by omega), List.nil_append,
      partsFrom_more (by rw [hbyte] <;> grind) (by rw [hbyte] <;> grind),
      partsFrom_last (hlow n) (hhigh n), hbyte (by omega), hbyte (by omega), hbits, hc]
  · have hbits : (((n / 262144 + 0xF0 - 0xF0) * 0x40 + (n / 4096 % 64 + 0x80 - 0x80)) * 0x40 +
        (n / 64 % 64 + 0x80 - 0x80)) * 0x40 + (n % 64 + 0x80 - 0x80) = n := by omega
    rw [encodeChar_four (by omega), hn]
    simp only [List.cons_append, List.nil_append]
    rw [partsFrom_cons, step, hbyte (by omega), first_four (by omega) (by omega), List.nil_append,
      partsFrom_more (by rw [hbyte] <;> grind) (by rw [hbyte] <;> grind),
      partsFrom_more (hlow (n / 64)) (hhigh (n / 64)), partsFrom_last (hlow n) (hhigh n),
      hbyte (by omega), hbyte (by omega), hbyte (by omega), hbits, hc]

/-- The bytes of a text are read as its characters. -/
theorem partsFrom_encode (s : List Char) : partsFrom .idle (encode s) = s.map some := by
  induction s with
  | nil => rfl
  | cons c rest ih => rw [encode, List.flatMap_cons, partsFrom_encodeChar, ← encode, ih, List.map_cons]

theorem allChars?_map_some (s : List Char) : allChars? (s.map some) = some s := by
  induction s with
  | nil => rfl
  | cons c rest ih => simp [allChars?, ih]

theorem decode?_encode (s : List Char) : decode? (encode s) = some s := by
  rw [decode?, partsFrom_encode, allChars?_map_some]

theorem decodeLossy_encode (s : List Char) : decodeLossy (encode s) = s := by
  rw [decodeLossy, partsFrom_encode, List.map_map]
  exact List.map_id s

/-! ## Accepted bytes -/

/-- Inside a character, accepted bytes go on with a byte that may come next. -/
theorem next_of_accepted {owed low high bits : Nat} {bytes : List UInt8} {s : List Char}
    (h : allChars? (partsFrom (.within owed low high bits) bytes) = some s) :
    ∃ b rest, bytes = b :: rest ∧ low ≤ b.toNat ∧ b.toNat ≤ high := by
  cases bytes with
  | nil => cases h
  | cons b rest =>
    refine ⟨b, rest, rfl, ?_⟩
    refine Decidable.by_contra fun hb => ?_
    simp [partsFrom_cons, step, hb, allChars?] at h

/-- Accepted bytes go on with the last byte of a character. -/
theorem last_of_accepted {low high bits : Nat} {bytes : List UInt8} {s : List Char}
    (h : allChars? (partsFrom (.within 0 low high bits) bytes) = some s) :
    ∃ b rest s', bytes = b :: rest ∧ low ≤ b.toNat ∧ b.toNat ≤ high ∧
      s = Char.ofNat (bits * 0x40 + (b.toNat - 0x80)) :: s' ∧ allChars? (partsFrom .idle rest) = some s' := by
  obtain ⟨b, rest, rfl, hlow, hhigh⟩ := next_of_accepted h
  rw [partsFrom_last hlow hhigh, allChars?, Option.map_eq_some_iff] at h
  obtain ⟨s', hs', rfl⟩ := h
  exact ⟨b, rest, s', rfl, hlow, hhigh, rfl, hs'⟩

/-- Accepted bytes go on with a byte inside a character. -/
theorem more_of_accepted {owed low high bits : Nat} {bytes : List UInt8} {s : List Char}
    (h : allChars? (partsFrom (.within (owed + 1) low high bits) bytes) = some s) :
    ∃ b rest, bytes = b :: rest ∧ low ≤ b.toNat ∧ b.toNat ≤ high ∧
      allChars? (partsFrom (.within owed 0x80 0xBF (bits * 0x40 + (b.toNat - 0x80))) rest) = some s := by
  obtain ⟨b, rest, rfl, hlow, hhigh⟩ := next_of_accepted h
  rw [partsFrom_more hlow hhigh] at h
  exact ⟨b, rest, rfl, hlow, hhigh, h⟩

/-- Accepted bytes begin with those of the first character. -/
theorem first_of_accepted {b : UInt8} {rest : List UInt8} {s : List Char}
    (h : allChars? (partsFrom .idle (b :: rest)) = some s) :
    ∃ c rest' s', b :: rest = String.utf8EncodeChar c ++ rest' ∧ s = c :: s' ∧
      allChars? (partsFrom .idle rest') = some s' := by
  have hself {b : UInt8} {n : Nat} (h : n = b.toNat) : UInt8.ofNat n = b := by rw [h, UInt8.ofNat_toNat]
  rw [partsFrom_cons, step] at h
  by_cases hascii : b.toNat < 0x80
  · rw [first_ascii hascii, List.singleton_append, allChars?, Option.map_eq_some_iff] at h
    obtain ⟨s', hs', rfl⟩ := h
    have hc := toNat_ofNat (n := b.toNat) (by omega)
    refine ⟨_, rest, s', ?_, rfl, hs'⟩
    rw [encodeChar_ascii (by omega), hc, hself rfl]
    rfl
  by_cases hbad : b.toNat < 0xC2 ∨ 0xF4 < b.toNat
  · rw [first_malformed (by omega) hbad] at h
    cases h
  by_cases htwo : b.toNat < 0xE0
  · rw [first_two (by omega) htwo, List.nil_append] at h
    obtain ⟨b₁, rest, s', rfl, hlow, hhigh, rfl, hs'⟩ := last_of_accepted h
    refine ⟨_, rest, s', ?_, rfl, hs'⟩
    generalize hn : (b.toNat - 0xC0) * 0x40 + (b₁.toNat - 0x80) = n
    have hc := toNat_ofNat (n := n) (by omega)
    rw [encodeChar_two (by omega) (by omega), hc, hself (b := b) (by omega), hself (b := b₁) (by omega)]
    rfl
  by_cases hthree : b.toNat < 0xF0
  · rw [first_three (by omega) hthree, List.nil_append] at h
    obtain ⟨b₁, _, rfl, hlow₁, hhigh₁, h⟩ := more_of_accepted h
    obtain ⟨b₂, rest, s', rfl, hlow, hhigh, rfl, hs'⟩ := last_of_accepted h
    refine ⟨_, rest, s', ?_, rfl, hs'⟩
    generalize hn : ((b.toNat - 0xE0) * 0x40 + (b₁.toNat - 0x80)) * 0x40 + (b₂.toNat - 0x80) = n
    have hlow₁ : 0x80 ≤ b₁.toNat ∧ (b.toNat = 0xE0 → 0xA0 ≤ b₁.toNat) := by grind
    have hhigh₁ : b₁.toNat ≤ 0xBF ∧ (b.toNat = 0xED → b₁.toNat ≤ 0x9F) := by grind
    have hc := toNat_ofNat (n := n) (by omega)
    rw [encodeChar_three (by omega) (by omega), hc, hself (b := b) (by omega), hself (b := b₁) (by omega),
      hself (b := b₂) (by omega)]
    rfl
  · rw [first_four (by omega) (by omega), List.nil_append] at h
    obtain ⟨b₁, _, rfl, hlow₁, hhigh₁, h⟩ := more_of_accepted h
    obtain ⟨b₂, _, rfl, hlow₂, hhigh₂, h⟩ := more_of_accepted h
    obtain ⟨b₃, rest, s', rfl, hlow, hhigh, rfl, hs'⟩ := last_of_accepted h
    refine ⟨_, rest, s', ?_, rfl, hs'⟩
    generalize hn : (((b.toNat - 0xF0) * 0x40 + (b₁.toNat - 0x80)) * 0x40 + (b₂.toNat - 0x80)) * 0x40 +
      (b₃.toNat - 0x80) = n
    have hlow₁ : 0x80 ≤ b₁.toNat ∧ (b.toNat = 0xF0 → 0x90 ≤ b₁.toNat) := by grind
    have hhigh₁ : b₁.toNat ≤ 0xBF ∧ (b.toNat = 0xF4 → b₁.toNat ≤ 0x8F) := by grind
    have hc := toNat_ofNat (n := n) (by omega)
    rw [encodeChar_four (by omega), hc, hself (b := b) (by omega), hself (b := b₁) (by omega),
      hself (b := b₂) (by omega), hself (b := b₃) (by omega)]
    rfl

/-- Accepted bytes are those of the text that they are read as. -/
theorem encode_of_decode? {bytes : List UInt8} {s : List Char} (h : decode? bytes = some s) :
    encode s = bytes := by
  unfold decode? at h
  induction hlen : bytes.length using Nat.strongRecOn generalizing bytes s with
  | ind length ih =>
    cases bytes with
    | nil => cases h; rfl
    | cons b rest =>
      obtain ⟨c, rest', s', hbytes, rfl, h'⟩ := first_of_accepted h
      have hpos : 0 < (String.utf8EncodeChar c).length := List.length_pos_iff.2 String.utf8EncodeChar_ne_nil
      have hshorter : rest'.length < length := by
        rw [← hlen, hbytes, List.length_append]
        omega
      have htail := ih _ hshorter h' rfl
      rw [hbytes, encode, List.flatMap_cons, ← encode, htail]

end LintBridge.Text.Utf8
