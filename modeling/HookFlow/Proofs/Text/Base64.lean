import HookFlow.Proofs.Text.Ascii
import HookFlow.Proofs.Text.Utf8
import HookFlow.Text.Base64
/-!
Base64: reading undoes writing, and only what is written is read.

Padding comes in the last group only and unused bits are zero, so a list of bytes has exactly one text. Both directions
go by groups of four characters: a group is read to the bytes for which it is written, and the last group may stand for
fewer than three.

Results:
- `group?_eq_some`, `lastGroup?_eq_some`: what a group is read to.
- `decode64?_eq_some`: a text is read to the bytes for which it is written.
- `mem_encode64`: which characters are written.
-/

namespace HookFlow.Text

/-! ## Digits -/

theorem value64?_digit64 {n : Nat} (small : n < 64) : value64? (digit64 n) = some n := by
  revert n
  decide

theorem digit64_ne_pad {n : Nat} (small : n < 64) : digit64 n ≠ '=' := by
  revert n
  decide

theorem ascii_of_value64? {c : Char} (digit : (value64? c).isSome = true) : c.toNat < 128 := by
  rw [value64?] at digit
  split at digit
  · rename_i range
    exact ascii_of_le range.2 (by decide)
  split at digit
  · rename_i range
    exact ascii_of_le range.2 (by decide)
  split at digit
  · rename_i range
    exact ascii_of_le range.2 (by decide)
  split at digit
  · rename_i plus
    subst plus
    decide
  split at digit
  · rename_i slash
    subst slash
    decide
  · cases digit

/-- A character with a value is the digit for it. -/
theorem value64?_eq_some {c : Char} {n : Nat} : value64? c = some n ↔ n < 64 ∧ c = digit64 n := by
  constructor
  · intro value
    have ascii : c.toNat < 128 := ascii_of_value64? (by rw [value]; rfl)
    have each : ∀ k < 128, ∀ n ∈ value64? (Char.ofNat k), n < 64 ∧ Char.ofNat k = digit64 n := by decide
    exact forall_ascii (P := fun c => ∀ n ∈ value64? c, n < 64 ∧ c = digit64 n) each ascii n value
  · rintro ⟨small, rfl⟩
    exact value64?_digit64 small

/-! ## Groups -/

/-- the number that four values of a group make up -/
def groupValue (x y z w : Nat) : Nat := ((x * 64 + y) * 64 + z) * 64 + w

/-- The bytes of the number are written with the four values. -/
theorem encode64_groupValue {x y z w : Nat} (hx : x < 64) (hy : y < 64) (hz : z < 64) (hw : w < 64) :
    encode64 [UInt8.ofNat (groupValue x y z w / 65536), UInt8.ofNat (groupValue x y z w / 256 % 256),
      UInt8.ofNat (groupValue x y z w % 256)] = [digit64 x, digit64 y, digit64 z, digit64 w] := by
  have high : groupValue x y z w / 65536 < 256 := by
    simp only [groupValue]
    omega
  have whole : (groupValue x y z w / 65536 * 256 + groupValue x y z w / 256 % 256) * 256 + groupValue x y z w % 256 =
      groupValue x y z w := by omega
  have first : groupValue x y z w / 262144 = x := by
    simp only [groupValue]
    omega
  have second : groupValue x y z w / 4096 % 64 = y := by
    simp only [groupValue]
    omega
  have third : groupValue x y z w / 64 % 64 = z := by
    simp only [groupValue]
    omega
  have fourth : groupValue x y z w % 64 = w := by
    simp only [groupValue]
    omega
  simp only [encode64, toNat_ofNat_byte high, toNat_ofNat_byte (Nat.mod_lt _ (show 256 > 0 by decide)), whole, first,
    second, third, fourth]

/-- **A full group is read to the three bytes for which it is written.** -/
theorem group?_eq_some {a b c d : Char} {bs : Bytes} :
    group? a b c d = some bs ↔ ∃ x y z, bs = [x, y, z] ∧ [a, b, c, d] = encode64 [x, y, z] := by
  simp only [group?, Option.bind_eq_bind, Option.bind_eq_some_iff, value64?_eq_some, Option.pure_def, Option.some_inj]
  constructor
  · rintro ⟨x, ⟨hx, rfl⟩, y, ⟨hy, rfl⟩, z, ⟨hz, rfl⟩, w, ⟨hw, rfl⟩, rfl⟩
    exact ⟨_, _, _, rfl, (encode64_groupValue hx hy hz hw).symm⟩
  · rintro ⟨x, y, z, rfl, same⟩
    have hx : x.toNat < 256 := UInt8.toNat_lt_size x
    have hy : y.toNat < 256 := UInt8.toNat_lt_size y
    have hz : z.toNat < 256 := UInt8.toNat_lt_size z
    simp only [encode64, List.cons.injEq, and_true] at same
    obtain ⟨rfl, rfl, rfl, rfl⟩ := same
    refine ⟨_, ⟨by omega, rfl⟩, _, ⟨by omega, rfl⟩, _, ⟨by omega, rfl⟩, _, ⟨by omega, rfl⟩, ?_⟩
    rw [ofNat_eq_byte (b := x) (by omega), ofNat_eq_byte (b := y) (by omega), ofNat_eq_byte (b := z) (by omega)]

/-- A group without padding is read alike wherever it stands. -/
theorem lastGroup?_full {a b c d : Char} (full : d ≠ '=') : lastGroup? a b c d = group? a b c d := by
  rw [lastGroup?, group?]
  simp only [if_neg full]
  rfl

/-- A group with two pads is read to the byte for which it is written. -/
theorem lastGroup?_one {a b : Char} {bs : Bytes} :
    lastGroup? a b '=' '=' = some bs ↔ ∃ x, bs = [x] ∧ [a, b, '=', '='] = encode64 [x] := by
  simp only [lastGroup?, Option.bind_eq_bind, Option.bind_eq_some_iff, value64?_eq_some, if_true]
  constructor
  · rintro ⟨x, ⟨hx, rfl⟩, y, ⟨hy, rfl⟩, read⟩
    obtain ⟨zero, last⟩ := Option.ite_none_right_eq_some.1 read
    obtain rfl := Option.some_inj.1 last
    have byte : x * 4 + y / 16 < 256 := by omega
    refine ⟨_, rfl, ?_⟩
    simp only [encode64, toNat_ofNat_byte byte]
    rw [show (x * 4 + y / 16) / 4 = x by omega, show (x * 4 + y / 16) % 4 * 16 = y by omega]
  · rintro ⟨x, rfl, same⟩
    have hx : x.toNat < 256 := UInt8.toNat_lt_size x
    simp only [encode64, List.cons.injEq, and_true] at same
    obtain ⟨rfl, rfl⟩ := same
    refine ⟨_, ⟨by omega, rfl⟩, _, ⟨by omega, rfl⟩, ?_⟩
    rw [if_pos (by omega), ofNat_eq_byte (b := x) (by omega)]

/-- A group with one pad is read to the two bytes for which it is written. -/
theorem lastGroup?_two {a b c : Char} {bs : Bytes} (part : c ≠ '=') :
    lastGroup? a b c '=' = some bs ↔ ∃ x y, bs = [x, y] ∧ [a, b, c, '='] = encode64 [x, y] := by
  simp only [lastGroup?, Option.bind_eq_bind, Option.bind_eq_some_iff, value64?_eq_some, if_true, if_neg part]
  constructor
  · rintro ⟨x, ⟨hx, rfl⟩, y, ⟨hy, rfl⟩, z, ⟨hz, rfl⟩, read⟩
    obtain ⟨zero, last⟩ := Option.ite_none_right_eq_some.1 read
    obtain rfl := Option.some_inj.1 last
    have high : ((x * 64 + y) * 16 + z / 4) / 256 < 256 := by omega
    have low : ((x * 64 + y) * 16 + z / 4) % 256 < 256 := Nat.mod_lt _ (by decide)
    refine ⟨_, _, rfl, ?_⟩
    simp only [encode64, toNat_ofNat_byte high, toNat_ofNat_byte low]
    rw [show ((x * 64 + y) * 16 + z / 4) / 256 * 256 + ((x * 64 + y) * 16 + z / 4) % 256 =
      (x * 64 + y) * 16 + z / 4 by omega, show ((x * 64 + y) * 16 + z / 4) / 1024 = x by omega,
      show ((x * 64 + y) * 16 + z / 4) / 16 % 64 = y by omega,
      show ((x * 64 + y) * 16 + z / 4) % 16 * 4 = z by omega]
  · rintro ⟨x, y, rfl, same⟩
    have hx : x.toNat < 256 := UInt8.toNat_lt_size x
    have hy : y.toNat < 256 := UInt8.toNat_lt_size y
    simp only [encode64, List.cons.injEq, and_true] at same
    obtain ⟨rfl, rfl, rfl⟩ := same
    refine ⟨_, ⟨by omega, rfl⟩, _, ⟨by omega, rfl⟩, _, ⟨by omega, rfl⟩, ?_⟩
    rw [if_pos (by omega), ofNat_eq_byte (b := x) (by omega), ofNat_eq_byte (b := y) (by omega)]

/-- The one, two or three bytes of a last group, by its pads. -/
theorem encode64_group {a b c d : Char} {bs : Bytes} (written : encode64 bs = [a, b, c, d]) :
    (∃ x, bs = [x] ∧ c = '=' ∧ d = '=') ∨ (∃ x y, bs = [x, y] ∧ c ≠ '=' ∧ d = '=') ∨
      ∃ x y z, bs = [x, y, z] ∧ d ≠ '=' := by
  match bs, written with
  | [x], written =>
    simp only [encode64, List.cons.injEq] at written
    exact .inl ⟨x, rfl, written.2.2.1.symm, written.2.2.2.1.symm⟩
  | [x, y], written =>
    simp only [encode64, List.cons.injEq] at written
    refine .inr (.inl ⟨x, y, rfl, ?_, written.2.2.2.1.symm⟩)
    rw [← written.2.2.1]
    exact digit64_ne_pad (by omega)
  | [x, y, z], written =>
    simp only [encode64, List.cons.injEq] at written
    refine .inr (.inr ⟨x, y, z, rfl, ?_⟩)
    rw [← written.2.2.2.1]
    exact digit64_ne_pad (Nat.mod_lt _ (by decide))
  | x :: y :: z :: [u], written => cases written
  | x :: y :: z :: [u, v], written => cases written
  | x :: y :: z :: u :: v :: w :: bs, written => cases written

/-- **The last group is read to the bytes for which it is written.** -/
theorem lastGroup?_eq_some {a b c d : Char} {bs : Bytes} :
    lastGroup? a b c d = some bs ↔ [a, b, c, d] = encode64 bs := by
  by_cases last : d = '='
  · subst last
    by_cases part : c = '='
    · subst part
      rw [lastGroup?_one]
      constructor
      · rintro ⟨x, rfl, same⟩
        exact same
      · intro same
        obtain ⟨x, rfl, -⟩ | ⟨x, y, rfl, digit, -⟩ | ⟨x, y, z, rfl, digit⟩ := encode64_group same.symm
        · exact ⟨x, rfl, same⟩
        · exact absurd rfl digit
        · exact absurd rfl digit
    · rw [lastGroup?_two part]
      constructor
      · rintro ⟨x, y, rfl, same⟩
        exact same
      · intro same
        obtain ⟨x, rfl, pad, -⟩ | ⟨x, y, rfl, -⟩ | ⟨x, y, z, rfl, digit⟩ := encode64_group same.symm
        · exact absurd pad part
        · exact ⟨x, y, rfl, same⟩
        · exact absurd rfl digit
  · rw [lastGroup?_full last, group?_eq_some]
    constructor
    · rintro ⟨x, y, z, rfl, same⟩
      exact same
    · intro same
      obtain ⟨x, rfl, -, pad⟩ | ⟨x, y, rfl, -, pad⟩ | ⟨x, y, z, rfl, -⟩ := encode64_group same.symm
      · exact absurd pad last
      · exact absurd pad last
      · exact ⟨x, y, z, rfl, same⟩

/-! ## Texts -/

theorem encode64_cons_cons_cons (x y z : UInt8) (bs : Bytes) :
    encode64 (x :: y :: z :: bs) = encode64 [x, y, z] ++ encode64 bs := rfl

/-- A text of more than a group is written for three bytes and the bytes of the other groups. -/
theorem encode64_eq_cons {a b c d e : Char} {rest : List Char} {bs : Bytes} :
    a :: b :: c :: d :: e :: rest = encode64 bs ↔
      ∃ x y z bs', bs = x :: y :: z :: bs' ∧ [a, b, c, d] = encode64 [x, y, z] ∧ e :: rest = encode64 bs' := by
  constructor
  · intro same
    match bs, same with
    | [x], same => cases same
    | [x, y], same => cases same
    | x :: y :: z :: bs', same =>
      rw [encode64_cons_cons_cons] at same
      have pieces : [a, b, c, d] ++ e :: rest = encode64 [x, y, z] ++ encode64 bs' := same
      obtain ⟨first, others⟩ := List.append_inj pieces rfl
      exact ⟨x, y, z, bs', rfl, first, others⟩
  · rintro ⟨x, y, z, bs', rfl, first, others⟩
    rw [encode64_cons_cons_cons, ← first, ← others]
    rfl

theorem encode64_eq_nil {bs : Bytes} : [] = encode64 bs ↔ bs = [] := by
  match bs with
  | [] => exact ⟨fun _ => rfl, fun _ => rfl⟩
  | [_] => exact ⟨nofun, nofun⟩
  | [_, _] => exact ⟨nofun, nofun⟩
  | _ :: _ :: _ :: _ => exact ⟨nofun, nofun⟩

/-- What is behind `acc` is read to the bytes for which it is written. -/
theorem decode64From?_eq_some {acc bs : Bytes} {cs : List Char} :
    decode64From? acc cs = some bs ↔ ∃ bs', bs = acc.reverse ++ bs' ∧ cs = encode64 bs' := by
  fun_induction decode64From? acc cs with
  | case1 acc => simp only [encode64_eq_nil, Option.some_inj, exists_eq_right, List.append_nil, eq_comm]
  | case2 acc a b c d =>
    rw [Option.map_eq_some_iff]
    simp only [lastGroup?_eq_some]
    exact ⟨fun ⟨bs', same, whole⟩ => ⟨bs', whole.symm, same⟩, fun ⟨bs', whole, same⟩ => ⟨bs', same, whole.symm⟩⟩
  | case3 acc a b c d e rest none =>
    simp only [reduceCtorEq, false_iff]
    rintro ⟨bs', -, same⟩
    obtain ⟨x, y, z, -, -, first, -⟩ := encode64_eq_cons.1 same
    rw [group?_eq_some.2 ⟨x, y, z, rfl, first⟩] at none
    cases none
  | case4 acc a b c d e rest here read ih =>
    obtain ⟨x, y, z, rfl, first⟩ := group?_eq_some.1 read
    rw [ih]
    constructor
    · rintro ⟨bs', rfl, same⟩
      exact ⟨x :: y :: z :: bs', by simp, encode64_eq_cons.2 ⟨x, y, z, bs', rfl, first, same⟩⟩
    · rintro ⟨bs', rfl, same⟩
      obtain ⟨x', y', z', bs', rfl, first', others⟩ := encode64_eq_cons.1 same
      have alike := group?_eq_some.2 ⟨x', y', z', rfl, first'⟩
      rw [read, Option.some_inj] at alike
      cases alike
      exact ⟨bs', by simp, others⟩
  | case5 acc cs none last more =>
    simp only [reduceCtorEq, false_iff]
    rintro ⟨bs', -, same⟩
    match bs', same with
    | [], same => exact none same
    | [_], same => exact last _ _ _ _ same
    | [_, _], same => exact last _ _ _ _ same
    | [x, y, z], same => exact last _ _ _ _ same
    | x :: y :: z :: [u], same => exact more _ _ _ _ _ _ same
    | x :: y :: z :: [u, v], same => exact more _ _ _ _ _ _ same
    | x :: y :: z :: u :: v :: w :: bs, same => exact more _ _ _ _ _ _ same

/-- **A text is read to the bytes for which it is written**, and no other text is read. -/
theorem decode64?_eq_some {cs : List Char} {bs : Bytes} : decode64? cs = some bs ↔ cs = encode64 bs := by
  rw [decode64?, decode64From?_eq_some]
  simp

theorem decode64?_encode64 (bs : Bytes) : decode64? (encode64 bs) = some bs := decode64?_eq_some.2 rfl

theorem digit64_small (n : Nat) : ∃ m < 64, digit64 n = digit64 m := by
  by_cases small : n < 64
  · exact ⟨n, small, rfl⟩
  · refine ⟨63, by decide, ?_⟩
    rw [digit64, if_neg (by omega), if_neg (by omega), if_neg (by omega), if_neg (by omega)]
    rfl

/-- The characters of a text are digits and padding. -/
theorem mem_encode64 {bs : Bytes} {c : Char} (hc : c ∈ encode64 bs) : c = '=' ∨ ∃ n < 64, c = digit64 n := by
  fun_induction encode64 bs with
  | case1 => cases hc
  | case2 a n =>
    simp only [List.mem_cons, List.not_mem_nil, or_false] at hc
    rcases hc with rfl | rfl | rfl | rfl
    · exact .inr (digit64_small _)
    · exact .inr (digit64_small _)
    · exact .inl rfl
    · exact .inl rfl
  | case3 a b n =>
    simp only [List.mem_cons, List.not_mem_nil, or_false] at hc
    rcases hc with rfl | rfl | rfl | rfl
    · exact .inr (digit64_small _)
    · exact .inr (digit64_small _)
    · exact .inr (digit64_small _)
    · exact .inl rfl
  | case4 a b c rest n ih =>
    simp only [List.mem_cons] at hc
    rcases hc with rfl | rfl | rfl | rfl | later
    · exact .inr (digit64_small _)
    · exact .inr (digit64_small _)
    · exact .inr (digit64_small _)
    · exact .inr (digit64_small _)
    · exact ih later

/-- The characters of a text are ASCII. -/
theorem ascii_of_mem_encode64 {bs : Bytes} {c : Char} (hc : c ∈ encode64 bs) : c.toNat < 128 := by
  rcases mem_encode64 hc with rfl | ⟨n, small, rfl⟩
  · decide
  · clear hc
    revert n
    decide

end HookFlow.Text
