import FirewallOrder.Url.Escape

/-!
# Escapes are read back

A text in which a set of characters is escaped is read back as the text that it was, as long as the
percent sign is in the set: every other one then stands at the beginning of an escape
(`unescape?_escape`). So no two texts are escaped alike. And of the set, only percent signs and
digits in base sixteen are left in an escaped text (`not_mem_escape`).
-/

namespace FirewallOrder.Url

theorem hexValue?_hexDigit {n : Nat} (h : n < 16) : hexValue? (hexDigit n) = some n := by
  have all : ∀ n : Fin 16, hexValue? (hexDigit n) = some n.val := by decide
  exact all ⟨n, h⟩

theorem unescapeBytes_escapeByte (b : UInt8) (rest : List Char) :
    unescapeBytes (escapeByte b ++ rest) = b :: unescapeBytes rest := by
  have hb : b.toNat < 256 := b.toNat_lt
  have step : escapeByte b ++ rest =
      '%' :: hexDigit (b.toNat / 16) :: hexDigit (b.toNat % 16) :: rest := rfl
  have digits : b.toNat / 16 * 16 + b.toNat % 16 = b.toNat := Nat.div_add_mod' _ _
  rw [step, unescapeBytes, hexValue?_hexDigit (by omega), hexValue?_hexDigit (by omega)]
  show UInt8.ofNat (b.toNat / 16 * 16 + b.toNat % 16) :: unescapeBytes rest =
    b :: unescapeBytes rest
  rw [digits, UInt8.ofNat_toNat]

theorem unescapeBytes_escapeChar (c : Char) (rest : List Char) :
    unescapeBytes (escapeChar c ++ rest) = String.utf8EncodeChar c ++ unescapeBytes rest := by
  rw [escapeChar]
  induction String.utf8EncodeChar c with
  | nil => rfl
  | cons b bs ih =>
    rw [List.flatMap_cons, List.append_assoc, unescapeBytes_escapeByte, ih, List.cons_append]

theorem unescapeBytes_cons {c : Char} (h : c ≠ '%') (rest : List Char) :
    unescapeBytes (c :: rest) = String.utf8EncodeChar c ++ unescapeBytes rest := by
  rw [unescapeBytes]
  intro a b more hc _
  exact h hc

theorem unescapeBytes_escape {set : Char → Bool} (percent : set '%' = true) (cs : List Char) :
    unescapeBytes (escape set cs) = cs.flatMap String.utf8EncodeChar := by
  induction cs with
  | nil => rfl
  | cons c cs ih =>
    have step : escape set (c :: cs) = (if set c then escapeChar c else [c]) ++ escape set cs := rfl
    rw [step, List.flatMap_cons]
    by_cases h : set c = true
    · rw [if_pos h, unescapeBytes_escapeChar, ih]
    · -- A character that stands as it is does not make an escape of what follows it.
      have hc : c ≠ '%' := by
        rintro rfl
        exact h percent
      rw [if_neg h, List.singleton_append, unescapeBytes_cons hc, ih]

/-- **An escaped text is read back as it was.** -/
theorem unescape?_escape {set : Char → Bool} (percent : set '%' = true) (cs : List Char) :
    unescape? (escape set cs) = some (String.ofList cs) := by
  have bytes : (⟨(cs.flatMap String.utf8EncodeChar).toArray⟩ : ByteArray) =
      (String.ofList cs).toByteArray := by
    rw [String.toByteArray_ofList]
    exact ByteArray.ext List.data_toByteArray.symm
  rw [unescape?, unescapeBytes_escape percent, bytes, String.fromUTF8?,
    dif_pos (String.ofList cs).isValidUTF8]
  rfl

/-! ## What is left of a set -/

theorem not_mem_escape {set : Char → Bool} {x : Char} (hset : set x = true) (percent : x ≠ '%')
    (digit : ∀ n < 16, x ≠ hexDigit n) (cs : List Char) : x ∉ escape set cs := by
  intro h
  rcases mem_escape h with ⟨-, plain⟩ | h | ⟨n, hn, h⟩
  · simp [hset] at plain
  · exact percent h
  · exact digit n hn h

end FirewallOrder.Url
