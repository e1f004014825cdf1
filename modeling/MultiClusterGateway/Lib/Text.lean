import Mathlib

set_option autoImplicit false

/-! # Strings as Go's `strings` package treats them

Names in the model are `String`s; what the proofs need of them is stated here once, over their
character lists. Go lower-cases rune by rune with the tables of the `unicode` package. Those tables
are not spelled out: `CaseFold` is any rune map with the three properties used (ASCII as documented,
idempotent, nothing else becomes a dot), and `CaseFold.ascii` is one. -/

namespace Text

/-- A rune-wise lower-casing as `strings.ToLower` applies it. -/
structure CaseFold where
  lower : Char → Char
  lower_ascii : ∀ c : Char, c.val < 128 → lower c = c.toLower
  lower_lower : ∀ c, lower (lower c) = lower c
  eq_dot_of_lower : ∀ c, lower c = '.' → c = '.'

theorem val_toLower_of_isUpper {c : Char} (h : c.val ≥ 'A'.val ∧ c.val ≤ 'Z'.val) :
    c.toLower.val.toNat = c.val.toNat + 32 := by
  have hle : c.val.toNat ≤ 90 := UInt32.le_iff_toNat_le.1 h.2
  unfold Char.toLower
  rw [dif_pos h]
  show (c.val + ('a'.val - 'A'.val)).toNat = c.val.toNat + 32
  rw [UInt32.toNat_add]
  have h32 : ('a'.val - 'A'.val).toNat = 32 := by decide
  rw [h32]
  omega

theorem toLower_of_not_isUpper {c : Char} (h : ¬ (c.val ≥ 'A'.val ∧ c.val ≤ 'Z'.val)) :
    c.toLower = c := by
  unfold Char.toLower
  rw [dif_neg h]

/-- Lower-casing of the ASCII capitals only. -/
def CaseFold.ascii : CaseFold where
  lower := Char.toLower
  lower_ascii _ _ := rfl
  lower_lower c := by
    by_cases h : c.val ≥ 'A'.val ∧ c.val ≤ 'Z'.val
    · have hval := val_toLower_of_isUpper h
      have hge : 65 ≤ c.val.toNat := UInt32.le_iff_toNat_le.1 h.1
      apply toLower_of_not_isUpper
      rintro ⟨-, hle⟩
      have : c.toLower.val.toNat ≤ 90 := UInt32.le_iff_toNat_le.1 hle
      omega
    · rw [toLower_of_not_isUpper h, toLower_of_not_isUpper h]
  eq_dot_of_lower c hdot := by
    by_cases h : c.val ≥ 'A'.val ∧ c.val ≤ 'Z'.val
    · have hval := val_toLower_of_isUpper h
      have hge : 65 ≤ c.val.toNat := UInt32.le_iff_toNat_le.1 h.1
      rw [hdot] at hval
      have h46 : '.'.val.toNat = 46 := by decide
      omega
    · rwa [toLower_of_not_isUpper h] at hdot

/-- `strings.ToLower`. -/
def toLower (fold : CaseFold) (s : String) : String :=
  String.ofList (s.toList.map fold.lower)

/-- Drop every occurrence of the two runes `a b`, scanning from the left. -/
def removePairs (a b : Char) : List Char → List Char
  | x :: y :: rest =>
    if x = a ∧ y = b then removePairs a b rest else x :: removePairs a b (y :: rest)
  | l => l

/-- `strings.Replace(s, old, "", -1)` for an `old` of two runes. -/
def removeAll (a b : Char) (s : String) : String :=
  String.ofList (removePairs a b s.toList)

/-- Drop the first occurrence of `old`. -/
def dropFirst (old : List Char) : List Char → List Char
  | [] => []
  | c :: rest =>
    if old.isPrefixOf (c :: rest) then (c :: rest).drop old.length else c :: dropFirst old rest

/-- `strings.Replace(s, old, "", 1)`. -/
def removeFirst (s old : String) : String := String.ofList (dropFirst old.toList s.toList)

/-- `strings.HasPrefix`. -/
def hasPrefix (s pre : String) : Bool :=
  pre.toList.isPrefixOf s.toList

/-- `strings.Contains`. -/
def contains (s sub : String) : Bool :=
  decide (sub.toList <:+: s.toList)

/-- The digits of a decimal number, read from the left. -/
def parseDigits : List Char → Option Nat
  | [] => none
  | cs =>
    if cs.all Char.isDigit then some (cs.foldl (fun n c => 10 * n + (c.toNat - 48)) 0) else none

/-- `strconv.ParseInt(s, 10, 64)`, which is also `strconv.Atoi`. -/
def parseInt64 (s : String) : Option Int :=
  let value : Option Int := match s.toList with
    | '-' :: cs => (parseDigits cs).map (fun (n : Nat) => -(n : Int))
    | '+' :: cs => (parseDigits cs).map (fun (n : Nat) => (n : Int))
    | cs => (parseDigits cs).map (fun (n : Nat) => (n : Int))
  value.bind (fun n => if -2 ^ 63 ≤ n ∧ n < 2 ^ 63 then some n else none)

/-- `unicode.IsSpace`. -/
def isSpace (c : Char) : Bool :=
  c.toNat ∈ [0x09, 0x0a, 0x0b, 0x0c, 0x0d, 0x20, 0x85, 0xa0, 0x1680, 0x2028, 0x2029, 0x202f,
    0x205f, 0x3000] || (0x2000 ≤ c.toNat && c.toNat ≤ 0x200a)

/-- `strings.TrimSpace`. -/
def trimSpace (s : String) : String :=
  String.ofList ((s.toList.dropWhile isSpace).reverse.dropWhile isSpace).reverse

/-- No rune of `s` is a dot: `s` is at most one label of a DNS name. -/
def DotFree (s : String) : Prop :=
  '.' ∉ s.toList

instance (s : String) : Decidable (DotFree s) :=
  inferInstanceAs (Decidable ('.' ∉ s.toList))

/-! ## Lower-casing -/

section
variable (fold : CaseFold)

@[simp] theorem toList_toLower (s : String) :
    (toLower fold s).toList = s.toList.map fold.lower := by
  simp [toLower]

theorem toLower_append (s t : String) :
    toLower fold (s ++ t) = toLower fold s ++ toLower fold t := by
  apply String.toList_inj.1
  simp

theorem toLower_toLower (s : String) : toLower fold (toLower fold s) = toLower fold s := by
  apply String.toList_inj.1
  simp [Function.comp_def, fold.lower_lower]

@[simp] theorem length_toLower (s : String) : (toLower fold s).length = s.length := by
  rw [← String.length_toList, ← String.length_toList]
  simp

theorem toLower_dot : toLower fold "." = "." := by
  have h : fold.lower '.' = '.' := fold.lower_ascii '.' (by decide)
  apply String.toList_inj.1
  simp [h]

theorem dotFree_toLower {s : String} (h : DotFree s) : DotFree (toLower fold s) := by
  intro hdot
  rw [toList_toLower, List.mem_map] at hdot
  obtain ⟨c, hc, heq⟩ := hdot
  exact h (fold.eq_dot_of_lower c heq ▸ hc)

/-- Lower-casing fixes a string of ASCII runes none of which is a capital. -/
theorem toLower_eq_self {s : String}
    (h : ∀ c ∈ s.toList, c.val < 128 ∧ c.toLower = c) : toLower fold s = s := by
  apply String.toList_inj.1
  rw [toList_toLower]
  conv_rhs => rw [← List.map_id s.toList]
  apply List.map_congr_left
  intro c hc
  rw [fold.lower_ascii c (h c hc).1, (h c hc).2, id]

theorem toLower_of_ascii {s t : String} (h : ∀ c ∈ s.toList, c.val < 128)
    (ht : s.toList.map Char.toLower = t.toList) : toLower fold s = t := by
  apply String.toList_inj.1
  rw [toList_toLower, ← ht]
  exact List.map_congr_left fun c hc => fold.lower_ascii c (h c hc)

end

/-- Digits and small letters are ASCII and stay what they are. -/
theorem ascii_of_alnum {c : Char} (h : c.isDigit = true ∨ c.isLower = true) :
    c.val < 128 ∧ c.toLower = c := by
  have hval : (48 ≤ c.val.toNat ∧ c.val.toNat ≤ 57) ∨ (97 ≤ c.val.toNat ∧ c.val.toNat ≤ 122) := by
    rcases h with hd | hl
    · simp only [Char.isDigit, ge_iff_le, Bool.and_eq_true, decide_eq_true_eq] at hd
      exact Or.inl ⟨UInt32.le_iff_toNat_le.1 hd.1, UInt32.le_iff_toNat_le.1 hd.2⟩
    · simp only [Char.isLower, ge_iff_le, Bool.and_eq_true, decide_eq_true_eq] at hl
      exact Or.inr ⟨UInt32.le_iff_toNat_le.1 hl.1, UInt32.le_iff_toNat_le.1 hl.2⟩
  constructor
  · apply UInt32.lt_iff_toNat_lt.2
    show c.val.toNat < 128
    omega
  · apply toLower_of_not_isUpper
    rintro ⟨hge, hle⟩
    have h65 : 65 ≤ c.val.toNat := UInt32.le_iff_toNat_le.1 hge
    have h90 : c.val.toNat ≤ 90 := UInt32.le_iff_toNat_le.1 hle
    omega

theorem toLower_eq_self_of_alnum (fold : CaseFold) {s : String}
    (h : ∀ c ∈ s.toList, c.isDigit = true ∨ c.isLower = true) : toLower fold s = s :=
  toLower_eq_self fold fun c hc => ascii_of_alnum (h c hc)

theorem dotFree_of_alnum {s : String}
    (h : ∀ c ∈ s.toList, c.isDigit = true ∨ c.isLower = true) : DotFree s := by
  intro hdot
  rcases h '.' hdot with hd | hl
  · exact absurd hd (by decide)
  · exact absurd hl (by decide)

/-! ## Splitting at the first separator -/

theorem list_split_at {sep : Char} {a b x y : List Char} (ha : sep ∉ a) (hb : sep ∉ b)
    (h : a ++ sep :: x = b ++ sep :: y) : a = b ∧ x = y := by
  induction a generalizing b with
  | nil =>
      cases b with
      | nil => simpa using h
      | cons c b' =>
          simp only [List.nil_append, List.cons_append, List.cons.injEq] at h
          exact absurd (h.1 ▸ List.mem_cons_self) hb
  | cons c a' ih =>
      cases b with
      | nil =>
          simp only [List.nil_append, List.cons_append, List.cons.injEq] at h
          exact absurd (h.1 ▸ List.mem_cons_self) ha
      | cons d b' =>
          simp only [List.cons_append, List.cons.injEq] at h
          obtain ⟨rfl, h⟩ := h
          obtain ⟨rfl, rfl⟩ := ih (fun hm => ha (List.mem_cons_of_mem _ hm))
            (fun hm => hb (List.mem_cons_of_mem _ hm)) h
          exact ⟨rfl, rfl⟩

/-- Joined at a separator that the first parts do not have, strings are equal only part by part. -/
theorem split_at {sep : Char} {a b x y : String} (ha : sep ∉ a.toList) (hb : sep ∉ b.toList)
    (h : a ++ String.singleton sep ++ x = b ++ String.singleton sep ++ y) : a = b ∧ x = y := by
  have h' : a.toList ++ sep :: x.toList = b.toList ++ sep :: y.toList := by
    have := congrArg String.toList h
    simpa using this
  obtain ⟨hab, hxy⟩ := list_split_at ha hb h'
  exact ⟨String.toList_inj.1 hab, String.toList_inj.1 hxy⟩

/-- What stands before a separator, itself without one, ends no later than any other cut at one. -/
theorem before_of_split {sep : Char} {a b x y : List Char} (ha : sep ∉ a)
    (h : a ++ sep :: x = b ++ sep :: y) : a <+: b := by
  rcases List.prefix_or_prefix_of_prefix (List.prefix_append a (sep :: x))
    (h ▸ List.prefix_append b (sep :: y)) with hab | ⟨c, rfl⟩
  · exact hab
  · rw [List.append_assoc, List.append_cancel_left_eq] at h
    cases c with
    | nil => simp
    | cons r c =>
        rw [List.cons_append, List.cons.injEq] at h
        exact absurd (by simp [h.1]) ha

/-! ## Removing an occurrence -/

/-- What is dropped is the occurrence with the least before it. -/
theorem dropFirst_eq {old l : List Char} (h : old <:+: l) (hold : old ≠ []) :
    ∃ p q, l = p ++ old ++ q ∧ dropFirst old l = p ++ q ∧
      ∀ p' q', l = p' ++ old ++ q' → p.length ≤ p'.length := by
  induction l with
  | nil => exact absurd (List.infix_nil.1 h) hold
  | cons c rest ih =>
      unfold dropFirst
      by_cases hpre : old.isPrefixOf (c :: rest) = true
      · rw [if_pos hpre]
        obtain ⟨q, hq⟩ := List.isPrefixOf_iff_prefix.1 hpre
        refine ⟨[], q, by simp [hq], ?_, fun p' q' _ => Nat.zero_le _⟩
        rw [← hq]
        simp
      · rw [if_neg hpre]
        have hne {p' q' : List Char} (hl : c :: rest = p' ++ old ++ q') :
            ∃ p'', p' = c :: p'' ∧ rest = p'' ++ old ++ q' := by
          cases p' with
          | nil =>
              refine absurd (List.isPrefixOf_iff_prefix.2 ⟨q', ?_⟩) hpre
              simpa using hl.symm
          | cons d p'' =>
              simp only [List.cons_append, List.cons.injEq] at hl
              obtain ⟨rfl, hl⟩ := hl
              exact ⟨p'', rfl, hl⟩
        obtain ⟨p₀, q₀, hl₀⟩ := h
        obtain ⟨p₁, -, hrest⟩ := hne hl₀.symm
        obtain ⟨p, q, hl, hdrop, hleast⟩ := ih ⟨p₁, q₀, hrest.symm⟩
        refine ⟨c :: p, q, by simp [hl], by simp [hdrop], fun p' q' hl' => ?_⟩
        obtain ⟨p'', rfl, hrest'⟩ := hne hl'
        simpa using hleast p'' q' hrest'

/-! ## Counting runes

Removing the pair `a b` removes no other rune, so a string that is longer by some other rune than
what is left of it cannot be equal to it. -/

theorem countP_removePairs (p : Char → Bool) {a b : Char} (ha : p a = false) (hb : p b = false)
    (l : List Char) : (removePairs a b l).countP p = l.countP p := by
  fun_induction removePairs a b l with
  | case1 x y rest hxy ih =>
      obtain ⟨rfl, rfl⟩ := hxy
      simp [ih, ha, hb]
  | case2 x y rest _ ih => simp [List.countP_cons, ih]
  | case3 => rfl

/-- Lower-casing neither adds nor removes runes with a given lower-case form. -/
theorem countP_toLower (fold : CaseFold) (b : Char) (s : String) :
    (toLower fold s).toList.countP (fun c => fold.lower c == b)
      = s.toList.countP (fun c => fold.lower c == b) := by
  rw [toList_toLower, List.countP_map]
  congr 1
  funext c
  simp [fold.lower_lower]

theorem parseDigits_toDigits (n : Nat) : parseDigits (Nat.toDigits 10 n) = some n := by
  have hall : (Nat.toDigits 10 n).all Char.isDigit = true :=
    List.all_eq_true.2 fun c hc => Nat.isDigit_of_mem_toDigits (by decide) (by decide) hc
  have hvalue : (Nat.toDigits 10 n).foldl (fun n c => 10 * n + (c.toNat - 48)) 0 = n := by
    have hfold := @Nat.ofDigitChars_eq_foldl 10 (Nat.toDigits 10 n) 0
    rw [Nat.ofDigitChars_ten_toDigits] at hfold
    exact hfold.symm
  unfold parseDigits
  split
  · rename_i hnil
    exact absurd hnil Nat.toDigits_ne_nil
  · rw [if_pos hall, hvalue]

/-- Reading back a number that was written in decimal. -/
theorem parseInt64_toString {n : Nat} {m : Int} (h : parseInt64 (toString n) = some m) : m = n := by
  have hchars : (toString n).toList = Nat.toDigits 10 n := by
    rw [Nat.toString_eq_ofList_toDigits, String.toList_ofList]
  have hdigit : ∀ c ∈ (toString n).toList, c.isDigit = true := by
    rw [hchars]
    exact fun c hc => Nat.isDigit_of_mem_toDigits (by decide) (by decide) hc
  unfold parseInt64 at h
  simp only at h
  split at h
  · rename_i cs hcs
    have hminus := hdigit '-' (hcs ▸ List.mem_cons_self)
    cases hminus
  · rename_i cs hcs
    have hplus := hdigit '+' (hcs ▸ List.mem_cons_self)
    cases hplus
  · rw [hchars, parseDigits_toDigits, Option.map_some, Option.bind_some] at h
    split at h
    · exact (Option.some.inj h).symm
    · cases h

end Text
