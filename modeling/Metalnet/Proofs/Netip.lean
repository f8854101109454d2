import Metalnet.Netip
import Mathlib.Data.Nat.Digits

/-!
# ParseAddr on the texts the client prints

The text of a valid prefix holds a slash and no zone mark, and `parseAddr` accepts no such text:
the IPv4 loop stops at the first character that is neither a digit nor a dot, and each IPv6
field stops at the first character that is not a hex digit, so the slash is left in the text
after the last field (`parseAddr_prefix_string`).

An IPv4 address, on the other hand, reads back from its text (`parseAddr_string_v4`): the loop
takes the decimal digits of each octet as its value, and a dot after each of the first three.
-/

namespace Metalnet

/-! ## The parsers stop at a slash -/

theorem parseIPv4Loop_ne_ok_of_slash (input : String) :
    ∀ (cs : List Char) (prev : Option Char) (fields : List Nat) (val digLen : Nat), '/' ∈ cs →
      ∀ r, parseIPv4Loop input cs prev fields val digLen ≠ .ok r
  | [], _, _, _, _, h, _ => by simp at h
  | c :: cs, prev, fields, val, digLen, h, r => by
    unfold parseIPv4Loop
    split_ifs with hd _ _ hdot
    all_goals try (intro h; cases h)
    · refine parseIPv4Loop_ne_ok_of_slash input cs _ _ _ _ ((List.mem_cons.1 h).resolve_left ?_) r
      rintro rfl; exact absurd hd.1 (by decide)
    · refine parseIPv4Loop_ne_ok_of_slash input cs _ _ _ _ ((List.mem_cons.1 h).resolve_left ?_) r
      rintro rfl; exact absurd hdot (by decide)


theorem mem_hexField_rest {c : Char} (hc : hexVal c = none) :
    ∀ {acc : Nat} {s : List Char}, c ∈ s → c ∈ (hexField acc s).2
  | _, [], h => h
  | acc, d :: ds, h => by
    unfold hexField
    split
    · rename_i v hv
      refine mem_hexField_rest hc ((List.mem_cons.1 h).resolve_left ?_)
      rintro rfl
      rw [hc] at hv
      cases hv
    · exact h

theorem parseIPv6Loop_slash (input : String) :
    ∀ (n : Nat) (ip : List Nat) (ellipsis : Option Nat) (s : List Char), '/' ∈ s →
      ∀ {r}, parseIPv6Loop input n ip ellipsis s = .ok r → '/' ∈ r.2.2
  | 0, ip, e, s, h, r, hr => by cases hr; exact h
  | n + 1, ip, e, s, h, r, hr => by
    have hrest : '/' ∈ (hexField 0 s).2 := mem_hexField_rest (by rfl) h
    unfold parseIPv6Loop at hr
    -- both checks on the field pass, since the loop went on
    rw [if_neg fun h1 => by rw [if_pos h1] at hr; cases hr] at hr
    rw [if_neg fun h2 => by rw [if_pos h2] at hr; cases hr] at hr
    split at hr
    · -- an embedded IPv4 address: it holds the slash, so it does not parse
      split at hr
      · cases hr
      split at hr
      · cases hr
      split at hr
      · cases hr
      · exact absurd ‹_› (parseIPv4Loop_ne_ok_of_slash _ s none [] 0 0 h _)
    · -- no text after the field
      rename_i heq
      rw [heq] at hrest
      cases hrest
    next c cs _ heq =>
      -- a separator: the slash is after it
      rw [heq] at hrest
      split at hr
      · cases hr
      next hc =>
      have hcs : '/' ∈ cs := (List.mem_cons.1 hrest).resolve_left fun h' => hc (h' ▸ by decide)
      split at hr
      · cases hr
      · split at hr
        · cases hr
        split at hr
        · next hnil => subst hnil; simp at hcs
        · exact parseIPv6Loop_slash input n _ _ _ ((List.mem_cons.1 hcs).resolve_left (by decide)) hr
      · exact parseIPv6Loop_slash input n _ _ _ hcs hr

theorem takeWhile_ne_percent {t : String} (hz : '%' ∉ t.toList) :
    t.toList.takeWhile (fun x => decide (x ≠ '%')) = t.toList :=
  List.takeWhile_eq_self_iff.2 fun _ hx => decide_eq_true fun h => hz (h ▸ hx)

theorem dropWhile_ne_percent {t : String} (hz : '%' ∉ t.toList) :
    t.toList.dropWhile (fun x => decide (x ≠ '%')) = [] :=
  List.dropWhile_eq_nil_iff.2 fun _ hx => decide_eq_true fun h => hz (h ▸ hx)

theorem parseIPv6_ne_ok_of_slash {input : String} (h : '/' ∈ input.toList)
    (hz : '%' ∉ input.toList) : ∀ a, parseIPv6 input ≠ .ok a := by
  intro a ha
  unfold parseIPv6 at ha
  simp only [takeWhile_ne_percent hz, hz, false_and, if_false] at ha
  split at ha
  · -- only `::`, but the text holds the slash
    revert ‹_ ∧ _›
    split
    · next s heq =>
      rintro ⟨-, hs⟩
      rw [heq, show s = [] from hs] at h
      simp at h
    · rintro ⟨⟨⟩, -⟩
  split at ha
  · cases ha
  next ip e rest heq =>
    have hmem := parseIPv6Loop_slash input 8 [] _ _ ?_ heq
    · rw [if_pos (List.ne_nil_of_mem hmem)] at ha
      cases ha
    · split
      · next s heq => rw [heq] at h; simpa using h
      · exact h

theorem parseAddr_ne_ok_of_slash {s : String} (h : '/' ∈ s.toList) (hz : '%' ∉ s.toList) :
    ∀ a, parseAddr s ≠ .ok a := by
  intro a ha
  unfold parseAddr at ha
  split at ha
  · revert ha
    cases hp : parseIPv4 s with
    | error e => rintro ⟨⟩
    | ok ip4 => exact absurd hp (parseIPv4Loop_ne_ok_of_slash s _ none [] 0 0 h ip4)
  · exact parseIPv6_ne_ok_of_slash h hz a ha
  · cases ha
  · cases ha

/-! ## The text of a prefix has no zone mark -/

theorem digitChar_mem (n : Nat) : Nat.digitChar n ∈ "0123456789abcdef*".toList := by
  by_cases hn : n < 16
  · have : ∀ k < 16, Nat.digitChar k ∈ "0123456789abcdef*".toList := by decide
    exact this n hn
  · unfold Nat.digitChar
    repeat rw [if_neg (by omega)]
    decide

theorem digitChar_ne_percent (n : Nat) : Nat.digitChar n ≠ '%' := fun h =>
  absurd (h ▸ digitChar_mem n) (by decide)

theorem mem_toDigitsCore {b : Nat} {c : Char} : ∀ {fuel n : Nat} {ds : List Char},
    c ∈ Nat.toDigitsCore b fuel n ds → c ∈ ds ∨ ∃ k, c = Nat.digitChar (k % b)
  | 0, _, _, h => .inl h
  | fuel + 1, n, ds, h => by
    unfold Nat.toDigitsCore at h
    dsimp only at h
    split at h
    · rcases List.mem_cons.1 h with rfl | h
      · exact .inr ⟨_, rfl⟩
      · exact .inl h
    · rcases mem_toDigitsCore h with h | h
      · rcases List.mem_cons.1 h with rfl | h
        · exact .inr ⟨_, rfl⟩
        · exact .inl h
      · exact .inr h

theorem percent_not_mem_toDigits (b n : Nat) : '%' ∉ Nat.toDigits b n := fun h => by
  rcases mem_toDigitsCore h with h | ⟨k, hk⟩
  · cases h
  · exact digitChar_ne_percent _ hk.symm

theorem percent_not_mem_toString_nat (n : Nat) : '%' ∉ (toString n).toList :=
  percent_not_mem_toDigits 10 n

theorem percent_not_mem_toString_int (n : Int) : '%' ∉ (toString n).toList := by
  cases n with
  | ofNat m => exact percent_not_mem_toString_nat m
  | negSucc m =>
    show '%' ∉ ('-' :: (toString (m + 1)).toList)
    simpa using percent_not_mem_toString_nat (m + 1)

theorem intercalate_go_data (sep : String) : ∀ (acc : String) (l : List String),
    (String.intercalate.go acc sep l).data = acc.data ++ (l.map fun x => sep.data ++ x.data).flatten
  | acc, [] => by simp [String.intercalate.go]
  | acc, x :: l => by
    rw [String.intercalate.go, intercalate_go_data sep _ l]
    simp

theorem mem_intercalate {sep : String} {l : List String} {c : Char}
    (h : c ∈ (sep.intercalate l).toList) : c ∈ sep.toList ∨ ∃ x ∈ l, c ∈ x.toList := by
  cases l with
  | nil => cases h
  | cons x l =>
    change c ∈ (String.intercalate.go x sep l).data at h
    rw [intercalate_go_data] at h
    simp only [List.mem_append, List.mem_flatten, List.mem_map] at h
    rcases h with h | ⟨_, ⟨y, hy, rfl⟩, h⟩
    · exact .inr ⟨x, List.mem_cons_self _ _, h⟩
    · rcases List.mem_append.1 h with h | h
      · exact .inl h
      · exact .inr ⟨y, List.mem_cons_of_mem _ hy, h⟩


theorem percent_not_mem_string4 (a : BitVec 32) : '%' ∉ (Addr.string4 a).toList := fun h => by
  rcases mem_intercalate h with h | ⟨x, hx, h⟩
  · simp at h
  · obtain ⟨k, -, rfl⟩ := List.mem_map.1 hx
    exact percent_not_mem_toString_nat _ h

theorem percent_not_mem_fields (a : BitVec 128) (l : List Nat) :
    '%' ∉ (":".intercalate (l.map fun i => Addr.hex (Addr.v6u16 a i))).toList := fun h => by
  rcases mem_intercalate h with h | ⟨x, hx, h⟩
  · simp at h
  · obtain ⟨k, -, rfl⟩ := List.mem_map.1 hx
    exact percent_not_mem_toDigits 16 _ h

theorem percent_not_mem_string6 (a : BitVec 128) : '%' ∉ (Addr.string6 a "").toList := by
  unfold Addr.string6
  dsimp only
  rw [if_pos rfl]
  split
  · simp only [String.toList, String.data_append, List.mem_append, not_or]
    exact ⟨⟨percent_not_mem_fields a _, by decide⟩, percent_not_mem_fields a _⟩
  · exact percent_not_mem_fields a _

theorem Addr.percent_not_mem_string {a : Addr} (h : a.zone = "") : '%' ∉ a.string.toList := by
  cases a with
  | zero => decide
  | v4 a => exact percent_not_mem_string4 a
  | v6 a z =>
    cases h
    simp only [Addr.string]
    split
    · simp only [if_pos, String.toList, String.data_append, List.mem_append, not_or]
      exact ⟨⟨by decide, percent_not_mem_string4 _⟩, by decide⟩
    · exact percent_not_mem_string6 a

theorem Prefix.percent_not_mem_string (p : Prefix) : '%' ∉ p.string.toList := by
  unfold Prefix.string
  split
  · simp only [String.toList, String.data_append, List.mem_append, not_or]
    exact ⟨⟨Addr.percent_not_mem_string p.zone_ip, by decide⟩, percent_not_mem_toString_int _⟩
  · decide

/-! ## Prefix texts do not parse as addresses -/

theorem Prefix.slash_mem_string {p : Prefix} (h : p.isValid = true) : '/' ∈ p.string.toList := by
  simp [Prefix.string, h, String.toList]

theorem parseAddr_prefix_string {p : Prefix} (h : p.isValid = true) :
    ∀ a, parseAddr p.string ≠ .ok a :=
  parseAddr_ne_ok_of_slash (Prefix.slash_mem_string h) (Prefix.percent_not_mem_string p)

/-! ## IPv4 texts parse back -/

theorem digitChar_digit : ∀ d < 10, '0' ≤ Nat.digitChar d ∧ Nat.digitChar d ≤ '9' ∧
    (Nat.digitChar d).toNat - '0'.toNat = d ∧ Nat.digitChar d ≠ '.' := by decide

/-- The IPv4 loop reads the decimal digits of an octet as its value. -/
theorem parseIPv4Loop_toDigitsCore (input : String) (rest : List Char) (fields : List Nat) :
    ∀ (f n : Nat) (ds : List Char) (prev : Option Char), n < f → n < 256 →
      ∃ c k, c ≠ '.' ∧ parseIPv4Loop input (Nat.toDigitsCore 10 f n ds ++ rest) prev fields 0 0 =
        parseIPv4Loop input (ds ++ rest) (some c) fields n k
  | 0, n, _, _, h, _ => absurd h (Nat.not_lt_zero n)
  | f + 1, n, ds, prev, hf, hn => by
    obtain ⟨h0, h9, hv, hdot⟩ := digitChar_digit (n % 10) (Nat.mod_lt _ (by decide))
    unfold Nat.toDigitsCore
    dsimp only
    split
    next hq =>
      refine ⟨_, 1, hdot, ?_⟩
      rw [List.cons_append, parseIPv4Loop, if_pos ⟨h0, h9⟩, hv, if_neg (by omega), if_neg (by omega)]
      congr 1
      omega
    next hq =>
      obtain ⟨c, k, -, h⟩ :=
        parseIPv4Loop_toDigitsCore input rest fields f (n / 10) _ prev (by omega) (by omega)
      refine ⟨_, k + 1, hdot, ?_⟩
      rw [h, List.cons_append, parseIPv4Loop, if_pos ⟨h0, h9⟩, hv, if_neg (by omega),
        if_neg (by omega), Nat.div_add_mod']

theorem toDigitsCore_ne_nil (b : Nat) :
    ∀ (f n : Nat) (ds : List Char), Nat.toDigitsCore b (f + 1) n ds ≠ []
  | 0, n, ds => by
    unfold Nat.toDigitsCore
    dsimp only
    split <;> exact List.cons_ne_nil _ _
  | f + 1, n, ds => by
    unfold Nat.toDigitsCore
    dsimp only
    split
    · exact List.cons_ne_nil _ _
    · exact toDigitsCore_ne_nil b f _ _

theorem parseIPv4Loop_octet_dot {input : String} {n : Nat} {cs : List Char} {prev : Option Char}
    {fields : List Nat} (hn : n < 256) (hcs : cs ≠ []) (hf : fields.length ≠ 3) :
    parseIPv4Loop input (Nat.toDigitsCore 10 (n + 1) n [] ++ '.' :: cs) prev fields 0 0 =
      parseIPv4Loop input cs (some '.') (fields ++ [n]) 0 0 := by
  obtain ⟨c, k, hc, h⟩ := parseIPv4Loop_toDigitsCore input ('.' :: cs) fields (n + 1) n [] prev
    (Nat.lt_succ_self n) hn
  rw [h, List.nil_append, parseIPv4Loop, if_neg (by decide), if_pos rfl, if_neg (by simp [hc, hcs]),
    if_neg hf]

theorem parseIPv4Loop_octet_last {input : String} {n : Nat} {prev : Option Char}
    {fields : List Nat} (hn : n < 256) (hf : fields.length = 3) :
    parseIPv4Loop input (Nat.toDigitsCore 10 (n + 1) n []) prev fields 0 0 = .ok (fields ++ [n]) := by
  obtain ⟨c, k, -, h⟩ := parseIPv4Loop_toDigitsCore input [] fields (n + 1) n [] prev
    (Nat.lt_succ_self n) hn
  rw [← List.append_nil (Nat.toDigitsCore _ _ _ _), h, List.nil_append, parseIPv4Loop,
    if_neg (by omega)]

/-- The octets of an IPv4 address, most significant first, as `string4` prints them. -/
theorem string4_toList (a : BitVec 32) : (Addr.string4 a).toList =
    Nat.toDigitsCore 10 ((a.toNat >>> 24) % 256 + 1) ((a.toNat >>> 24) % 256) [] ++ '.' ::
      (Nat.toDigitsCore 10 ((a.toNat >>> 16) % 256 + 1) ((a.toNat >>> 16) % 256) [] ++ '.' ::
        (Nat.toDigitsCore 10 ((a.toNat >>> 8) % 256 + 1) ((a.toNat >>> 8) % 256) [] ++ '.' ::
          Nat.toDigitsCore 10 ((a.toNat >>> 0) % 256 + 1) ((a.toNat >>> 0) % 256) [])) := by
  show (String.intercalate.go _ "." _).data = _
  rw [intercalate_go_data]
  simp
  rfl

theorem parseIPv4_string4 (a : BitVec 32) : parseIPv4 (Addr.string4 a) =
    .ok [(a.toNat >>> 24) % 256, (a.toNat >>> 16) % 256, (a.toNat >>> 8) % 256, (a.toNat >>> 0) % 256] := by
  have hb : ∀ k, (a.toNat >>> k) % 256 < 256 := fun _ => Nat.mod_lt _ (by decide)
  unfold parseIPv4
  rw [string4_toList, parseIPv4Loop_octet_dot (hb _) (by simp) (by simp),
    parseIPv4Loop_octet_dot (hb _) (by simp) (by simp),
    parseIPv4Loop_octet_dot (hb _) (toDigitsCore_ne_nil _ _ _ _) (by simp),
    parseIPv4Loop_octet_last (hb _) (by simp)]
  rfl

theorem foldl_octets (b : BitVec 32) (acc : Nat) :
    [(b.toNat >>> 24) % 256, (b.toNat >>> 16) % 256, (b.toNat >>> 8) % 256,
      (b.toNat >>> 0) % 256].foldl (fun acc x => acc * 256 + x) acc = acc * 2 ^ 32 + b.toNat := by
  have := b.isLt
  simp only [List.foldl, Nat.shiftRight_eq_div_pow, Nat.reducePow] at this ⊢
  omega

theorem fromBytes_octets (a : BitVec 32) :
    BitVec.ofNat 32 (fromBytes [(a.toNat >>> 24) % 256, (a.toNat >>> 16) % 256,
      (a.toNat >>> 8) % 256, (a.toNat >>> 0) % 256]) = a := by
  apply BitVec.eq_of_toNat_eq
  rw [BitVec.toNat_ofNat, fromBytes, foldl_octets, Nat.zero_mul, Nat.zero_add]
  exact Nat.mod_eq_of_lt a.isLt

theorem find?_string4 (a : BitVec 32) :
    (Addr.string4 a).toList.find? (fun c => c = '.' ∨ c = ':' ∨ c = '%') = some '.' := by
  rw [string4_toList, List.find?_append, List.find?_eq_none.2, Option.none_or]
  · rfl
  · have key : ∀ d ∈ "0123456789abcdef*".toList, ¬ (d = '.' ∨ d = ':' ∨ d = '%') := by decide
    intro c hc
    rcases mem_toDigitsCore hc with h | ⟨k, rfl⟩
    · cases h
    · simpa using key _ (digitChar_mem _)

/-- `ParseAddr` reads back every IPv4 address from its text. -/
theorem parseAddr_string_v4 (a : BitVec 32) : parseAddr (Addr.v4 a).string = .ok (.v4 a) := by
  unfold parseAddr
  rw [Addr.string, find?_string4, parseIPv4_string4]
  exact congrArg (fun b => Except.ok (Addr.v4 b)) (fromBytes_octets a)

end Metalnet
