import Preflight.Proofs.Text.Numeral
import Preflight.Report.Json

/-!
# The text of a JSON value

No two values have the same text. Within a longer text this is so too, if what comes after a value
starts with no digit: numbers are the only values that do not show where they end.

## Main definitions

* `Json.Unmistakable`: a value that is told from all others by its text.

## Main results

* `Json.eq_of_block`: lists of values with a line for each.
* `Json.unmistakable_textAt`: the text of a value at a level of nesting.
* `Json.text_injective`: two values with the same text are the same.
-/

namespace Preflight.Json

open Preflight.Text

variable {α : Type} {level : Nat} {rest rest' : List Char}

/-- A text that no number goes on with. -/
def StartsNoDigit (cs : List Char) : Prop := ∀ c ∈ cs.head?, c.isDigit = false

theorem startsNoDigit_cons {c : Char} (h : c.isDigit = false) (cs : List Char) :
    StartsNoDigit (c :: cs) := by
  intro d hd
  obtain rfl := Option.some.inj hd
  exact h

/-- A value that is told from all others by its text, and its text from what comes after it. -/
def Unmistakable (text : α → String) (a : α) : Prop :=
  ∀ a' rest rest', StartsNoDigit rest → StartsNoDigit rest' →
    (text a).toList ++ rest = (text a').toList ++ rest' → a = a' ∧ rest = rest'

/-! ### Strings -/

/-- The control character that four digits stand for. -/
def controlOf (digits : List Char) : Char :=
  Char.ofNat (((List.range 32).find? fun n => Text.hexPadded 4 n == digits).getD 0)

/-- The character that a text starts with, where it may be escaped, and what comes after it. -/
def readChar : List Char → Char × List Char
  | '\\' :: 'u' :: digits => (controlOf (digits.take 4), digits.drop 4)
  | '\\' :: 'n' :: rest => ('\n', rest)
  | '\\' :: 'r' :: rest => ('\r', rest)
  | '\\' :: 't' :: rest => ('\t', rest)
  | '\\' :: 'b' :: rest => ('\x08', rest)
  | '\\' :: 'f' :: rest => ('\x0c', rest)
  | '\\' :: c :: rest => (c, rest)
  | c :: rest => (c, rest)
  | [] => ('"', [])

theorem readChar_control {c : Char} (h : c < ' ') (rest : List Char) :
    readChar ('\\' :: 'u' :: Text.hexPadded 4 c.toNat ++ rest) = (c, rest) := by
  have hall : ∀ n < 32, (Text.hexPadded 4 n).length = 4 ∧
      controlOf (Text.hexPadded 4 n) = Char.ofNat n := by decide +kernel
  obtain ⟨hlength, hcontrol⟩ := hall c.toNat h
  rw [List.cons_append, List.cons_append, readChar, List.take_left' hlength,
    List.drop_left' hlength, hcontrol, Char.ofNat_toNat]

/-- A character is read back. -/
theorem readChar_escapedChar (c : Char) (rest : List Char) :
    readChar (escapedChar c ++ rest) = (c, rest) := by
  unfold escapedChar
  split
  · next h => subst h; rfl
  split
  · next h => subst h; rfl
  split
  · next h => subst h; rfl
  split
  · next h => subst h; rfl
  split
  · next h => subst h; rfl
  split
  · next h => subst h; rfl
  split
  · next h => subst h; rfl
  split
  · next h => exact readChar_control h rest
  · next hbackslash _ _ _ _ _ _ =>
    rw [List.singleton_append, readChar.eq_def]
    split <;> simp_all

/-- No character of a string stands as the quotation mark at its end. -/
theorem escapedChar_append_ne (c : Char) (rest tail : List Char) :
    escapedChar c ++ rest ≠ '"' :: tail := by
  intro h
  have hread := readChar_escapedChar c rest
  rw [h] at hread
  obtain rfl : '"' = c := congrArg Prod.fst hread
  exact absurd (List.cons.inj h).1 (by decide)

theorem eq_of_flatMap_escapedChar {cs cs' : List Char}
    (h : cs.flatMap escapedChar ++ '"' :: rest = cs'.flatMap escapedChar ++ '"' :: rest') :
    cs = cs' ∧ rest = rest' := by
  induction cs generalizing cs' with
  | nil =>
    cases cs' with
    | nil => exact ⟨rfl, (List.cons.inj h).2⟩
    | cons c' cs' =>
      rw [List.flatMap_cons, List.append_assoc] at h
      exact (escapedChar_append_ne _ _ _ h.symm).elim
  | cons c cs ih =>
    cases cs' with
    | nil =>
      rw [List.flatMap_cons, List.append_assoc] at h
      exact (escapedChar_append_ne _ _ _ h).elim
    | cons c' cs' =>
      rw [List.flatMap_cons, List.flatMap_cons, List.append_assoc, List.append_assoc] at h
      have hread := readChar_escapedChar c (cs.flatMap escapedChar ++ '"' :: rest)
      rw [h, readChar_escapedChar, Prod.mk.injEq] at hread
      obtain ⟨rfl, hmore⟩ := hread
      obtain ⟨rfl, hrest⟩ := ih hmore.symm
      exact ⟨rfl, hrest⟩

theorem unmistakable_stringText (s : String) : Unmistakable stringText s := by
  intro s' rest rest' _ _ h
  simp only [stringText, String.toList_ofList, List.cons_append, List.append_assoc,
    List.nil_append, List.cons.injEq, true_and] at h
  obtain ⟨hchars, hrest⟩ := eq_of_flatMap_escapedChar h
  exact ⟨String.toList_inj.mp hchars, hrest⟩

/-! ### Numbers -/

theorem takeWhile_isDigit_repr (n : Nat) (h : StartsNoDigit rest) :
    ((Nat.repr n).toList ++ rest).takeWhile Char.isDigit = (Nat.repr n).toList := by
  rw [List.takeWhile_append_of_pos fun c hc => isDigit_of_mem_repr hc]
  cases rest with
  | nil => simp
  | cons c rest => simp [h c rfl]

theorem unmistakable_repr (n : Nat) : Unmistakable Nat.repr n := by
  intro n' rest rest' hrest hrest' h
  have hdigits : Nat.toDigits 10 n = Nat.toDigits 10 n' := by
    rw [← toList_repr, ← toList_repr, ← takeWhile_isDigit_repr n hrest, h,
      takeWhile_isDigit_repr n' hrest']
  have hn : n = n' := by
    rw [← Nat.ofDigitChars_ten_toDigits (n := n), hdigits, Nat.ofDigitChars_ten_toDigits]
  subst hn
  exact ⟨rfl, List.append_cancel_left h⟩

theorem exists_head_repr (n : Nat) :
    ∃ c cs, (Nat.repr n).toList = c :: cs ∧ c.isDigit = true := by
  have hne : (Nat.repr n).toList ≠ [] := toList_repr n ▸ Nat.toDigits_ne_nil
  obtain ⟨c, cs, hcs⟩ := List.exists_cons_of_ne_nil hne
  exact ⟨c, cs, hcs, isDigit_of_mem_repr (hcs ▸ List.mem_cons_self ..)⟩

/-- A number that is not negative does not start with a dash. -/
theorem repr_append_ne (n : Nat) (rest tail : List Char) :
    (Nat.repr n).toList ++ rest ≠ '-' :: tail := by
  obtain ⟨c, cs, hcs, hc⟩ := exists_head_repr n
  intro h
  rw [hcs] at h
  obtain rfl := (List.cons.inj h).1
  exact absurd hc (by decide)

theorem toString_negSucc (n : Nat) :
    (toString (Int.negSucc n)).toList = '-' :: (Nat.repr (n + 1)).toList := by
  rw [show toString (Int.negSucc n) = "-" ++ Nat.repr (n + 1) from rfl, String.toList_append]
  rfl

theorem unmistakable_toString (n : Int) : Unmistakable (toString : Int → String) n := by
  intro n' rest rest' hrest hrest' h
  cases n with
  | ofNat k =>
    cases n' with
    | ofNat k' =>
      obtain ⟨rfl, heq⟩ := unmistakable_repr k k' rest rest' hrest hrest' h
      exact ⟨rfl, heq⟩
    | negSucc k' =>
      rw [toString_negSucc] at h
      exact (repr_append_ne _ _ _ h).elim
  | negSucc k =>
    cases n' with
    | ofNat k' =>
      rw [toString_negSucc] at h
      exact (repr_append_ne _ _ _ h.symm).elim
    | negSucc k' =>
      rw [toString_negSucc, toString_negSucc] at h
      obtain ⟨hk, heq⟩ :=
        unmistakable_repr (k + 1) (k' + 1) rest rest' hrest hrest' (List.cons.inj h).2
      obtain rfl := Nat.succ.inj hk
      exact ⟨rfl, heq⟩

/-! ### Lists -/

section block

variable {text : α → String} {separator ending ending' : List Char} {opening closing : String}

/-- Items with a separator before each, and what comes after the last one. -/
def itemsThen (text : α → String) (separator ending : List Char) : List α → List Char
  | [] => ending
  | a :: more => separator ++ ((text a).toList ++ itemsThen text separator ending more)

theorem toList_intercalate_append (text : α → String) (separator : String) (ending : List Char)
    (a : α) (more : List α) :
    (separator.intercalate ((a :: more).map text)).toList ++ ending =
      (text a).toList ++ itemsThen text separator.toList ending more := by
  induction more generalizing a with
  | nil => simp [itemsThen]
  | cons b more ih =>
    rw [List.map_cons, List.map_cons, String.intercalate_cons_cons, ← List.map_cons,
      String.toList_append, String.toList_append, List.append_assoc, ih, itemsThen,
      List.append_assoc]

theorem startsNoDigit_itemsThen (as : List α) :
    StartsNoDigit (itemsThen text (',' :: separator) ('\n' :: ending) as) := by
  cases as with
  | nil => exact startsNoDigit_cons (by decide) _
  | cons a more => exact startsNoDigit_cons (by decide) _

/-- After an item a comma says that there is another one, and a line break that there is none. -/
theorem eq_of_itemsThen {as as' : List α} (has : ∀ a ∈ as, Unmistakable text a)
    (h : itemsThen text (',' :: separator) ('\n' :: ending) as =
      itemsThen text (',' :: separator) ('\n' :: ending') as') : as = as' ∧ ending = ending' := by
  induction as generalizing as' with
  | nil =>
    cases as' with
    | nil => exact ⟨rfl, (List.cons.inj h).2⟩
    | cons a' more' => exact absurd (List.cons.inj h).1 (by decide)
  | cons a more ih =>
    obtain ⟨ha, hmore⟩ := List.forall_mem_cons.mp has
    cases as' with
    | nil => exact absurd (List.cons.inj h).1 (by decide)
    | cons a' more' =>
      obtain ⟨rfl, hrest⟩ := ha a' _ _ (startsNoDigit_itemsThen more)
        (startsNoDigit_itemsThen more') (List.append_cancel_left h)
      obtain ⟨rfl, hending⟩ := ih hmore hrest
      exact ⟨rfl, hending⟩

theorem toList_block_append (a : α) (more : List α) :
    (block level opening closing ((a :: more).map text)).toList ++ rest =
      opening.toList ++ ('\n' :: (List.replicate (2 * (level + 1)) ' ' ++ ((text a).toList ++
        itemsThen text (',' :: (newLine (level + 1)).toList)
          ('\n' :: (List.replicate (2 * level) ' ' ++ (closing.toList ++ rest))) more))) := by
  have hline (level : Nat) :
      (newLine level).toList = '\n' :: List.replicate (2 * level) ' ' := by simp [newLine]
  have hitems := toList_intercalate_append text ("," ++ newLine (level + 1))
    ((newLine level).toList ++ (closing.toList ++ rest)) a more
  rw [block, if_neg (by simp)]
  simp only [String.toList_append, List.append_assoc]
  simp only [String.toList_append] at hitems
  rw [hitems, hline, hline]
  rfl

/-- **Lists of values with a line for each** are told from each other, if each value is. -/
theorem eq_of_block {as as' : List α} {mark : Char} (hmark : mark ≠ '\n')
    (hclosing : closing.toList = [mark]) (has : ∀ a ∈ as, Unmistakable text a)
    (h : (block level opening closing (as.map text)).toList ++ rest =
      (block level opening closing (as'.map text)).toList ++ rest') : as = as' ∧ rest = rest' := by
  have hempty (rest : List Char) : (block level opening closing (([] : List α).map text)).toList ++
      rest = opening.toList ++ mark :: rest := by
    rw [List.map_nil, block, if_pos List.isEmpty_nil, String.toList_append, hclosing,
      List.append_assoc]
    rfl
  cases as with
  | nil =>
    cases as' with
    | nil =>
      rw [hempty, hempty] at h
      exact ⟨rfl, (List.cons.inj (List.append_cancel_left h)).2⟩
    | cons a' more' =>
      rw [hempty, toList_block_append] at h
      exact absurd (List.cons.inj (List.append_cancel_left h)).1 hmark
  | cons a more =>
    cases as' with
    | nil =>
      rw [hempty, toList_block_append] at h
      exact absurd (List.cons.inj (List.append_cancel_left h)).1.symm hmark
    | cons a' more' =>
      obtain ⟨ha, hmore⟩ := List.forall_mem_cons.mp has
      rw [toList_block_append, toList_block_append] at h
      have hitems := List.append_cancel_left (List.cons.inj (List.append_cancel_left h)).2
      obtain ⟨rfl, hrest⟩ := ha a' _ _ (startsNoDigit_itemsThen more)
        (startsNoDigit_itemsThen more') hitems
      obtain ⟨rfl, hending⟩ := eq_of_itemsThen hmore hrest
      exact ⟨rfl, List.append_cancel_left (List.append_cancel_left hending)⟩

end block

/-! ### Values -/

/-- The text of a member of an object. -/
def memberAt (level : Nat) (member : String × Json) : String :=
  stringText member.1 ++ ": " ++ textAt level member.2

theorem textsAt_eq_map (values : List Json) : textsAt level values = values.map (textAt level) := by
  induction values with
  | nil => rw [textsAt, List.map_nil]
  | cons v rest ih => rw [textsAt, ih, List.map_cons]

theorem membersAt_eq_map (members : List (String × Json)) :
    membersAt level members = members.map (memberAt level) := by
  induction members with
  | nil => rw [membersAt, List.map_nil]
  | cons m rest ih =>
    obtain ⟨k, v⟩ := m
    rw [membersAt, ih, List.map_cons, memberAt]

theorem unmistakable_memberAt {member : String × Json}
    (h : Unmistakable (textAt level) member.2) : Unmistakable (memberAt level) member := by
  intro member' rest rest' hrest hrest' heq
  have hcolon : ": ".toList = [':', ' '] := rfl
  simp only [memberAt, String.toList_append, List.append_assoc, hcolon] at heq
  obtain ⟨hkey, hvalue⟩ := unmistakable_stringText member.1 member'.1 _ _
    (startsNoDigit_cons (by decide) _) (startsNoDigit_cons (by decide) _) heq
  obtain ⟨hvalue, hrest⟩ :=
    h member'.2 rest rest' hrest hrest' (List.cons.inj (List.cons.inj hvalue).2).2
  exact ⟨Prod.ext hkey hvalue, hrest⟩

/-- The kind of a value as the character says that its text starts with. -/
def kindOf (c : Char) : Nat :=
  if c.isDigit ∨ c = '-' then 2
  else if c = 'n' then 0
  else if c = 't' ∨ c = 'f' then 1
  else if c = '"' then 3
  else if c = '[' then 4
  else 5

/-- The kind of a value. -/
def kind : Json → Nat
  | null => 0
  | bool _ => 1
  | num _ => 2
  | str _ => 3
  | arr _ => 4
  | obj _ => 5

theorem exists_head_toString (n : Int) :
    ∃ c cs, (toString n).toList = c :: cs ∧ (c.isDigit = true ∨ c = '-') := by
  cases n with
  | ofNat k =>
    obtain ⟨c, cs, hcs, hc⟩ := exists_head_repr k
    exact ⟨c, cs, hcs, Or.inl hc⟩
  | negSucc k => exact ⟨'-', _, toString_negSucc k, Or.inr rfl⟩

theorem exists_block_eq (level : Nat) (opening closing : String) (items : List String) :
    ∃ more, block level opening closing items = opening ++ more := by
  unfold block
  split
  · exact ⟨closing, rfl⟩
  · simp only [String.append_assoc]
    exact ⟨_, rfl⟩

theorem exists_head_textAt (level : Nat) (v : Json) :
    ∃ c cs, (textAt level v).toList = c :: cs ∧ kindOf c = v.kind := by
  cases v with
  | null => exact ⟨'n', ['u', 'l', 'l'], by rw [textAt]; rfl, rfl⟩
  | bool b =>
    cases b with
    | false => exact ⟨'f', ['a', 'l', 's', 'e'], by rw [textAt]; rfl, rfl⟩
    | true => exact ⟨'t', ['r', 'u', 'e'], by rw [textAt]; rfl, rfl⟩
  | num n =>
    obtain ⟨c, cs, hcs, hc⟩ := exists_head_toString n
    exact ⟨c, cs, by rw [textAt, hcs], if_pos hc⟩
  | str s => exact ⟨'"', _, by rw [textAt, stringText, String.toList_ofList]; rfl, rfl⟩
  | arr values =>
    obtain ⟨more, hmore⟩ := exists_block_eq level "[" "]" (textsAt (level + 1) values)
    exact ⟨'[', more.toList, by rw [textAt, hmore, String.toList_append]; rfl, rfl⟩
  | obj members =>
    obtain ⟨more, hmore⟩ := exists_block_eq level "\x7b" "\x7d" (membersAt (level + 1) members)
    exact ⟨'\x7b', more.toList, by rw [textAt, hmore, String.toList_append]; rfl, rfl⟩

mutual

/-- Each value is told from all others by its text. -/
theorem unmistakable_textAt (level : Nat) (v : Json) : Unmistakable (textAt level) v := by
  intro v' rest rest' hrest hrest' h
  have hkind : v.kind = v'.kind := by
    obtain ⟨c, cs, hc, hv⟩ := exists_head_textAt level v
    obtain ⟨c', cs', hc', hv'⟩ := exists_head_textAt level v'
    rw [hc, hc'] at h
    rw [← hv, ← hv', (List.cons.inj h).1]
  cases v with
  | null =>
    cases v' with
    | null => exact ⟨rfl, List.append_cancel_left h⟩
    | _ => cases hkind
  | bool b =>
    cases v' with
    | bool b' =>
      rw [textAt, textAt] at h
      cases b with
      | false =>
        cases b' with
        | false => exact ⟨rfl, List.append_cancel_left h⟩
        | true => exact absurd (List.cons.inj h).1 (by decide)
      | true =>
        cases b' with
        | false => exact absurd (List.cons.inj h).1 (by decide)
        | true => exact ⟨rfl, List.append_cancel_left h⟩
    | _ => cases hkind
  | num n =>
    cases v' with
    | num n' =>
      rw [textAt, textAt] at h
      obtain ⟨rfl, heq⟩ := unmistakable_toString n n' rest rest' hrest hrest' h
      exact ⟨rfl, heq⟩
    | _ => cases hkind
  | str s =>
    cases v' with
    | str s' =>
      rw [textAt, textAt] at h
      obtain ⟨rfl, heq⟩ := unmistakable_stringText s s' rest rest' hrest hrest' h
      exact ⟨rfl, heq⟩
    | _ => cases hkind
  | arr values =>
    cases v' with
    | arr values' =>
      rw [textAt, textAt, textsAt_eq_map, textsAt_eq_map] at h
      obtain ⟨rfl, heq⟩ := eq_of_block (by decide) rfl (unmistakable_values (level + 1) values) h
      exact ⟨rfl, heq⟩
    | _ => cases hkind
  | obj members =>
    cases v' with
    | obj members' =>
      rw [textAt, textAt, membersAt_eq_map, membersAt_eq_map] at h
      obtain ⟨rfl, heq⟩ := eq_of_block (by decide) rfl (unmistakable_members (level + 1) members) h
      exact ⟨rfl, heq⟩
    | _ => cases hkind

theorem unmistakable_values (level : Nat) (values : List Json) :
    ∀ v ∈ values, Unmistakable (textAt level) v := by
  cases values with
  | nil => simp
  | cons v rest =>
    exact List.forall_mem_cons.mpr ⟨unmistakable_textAt level v, unmistakable_values level rest⟩

theorem unmistakable_members (level : Nat) (members : List (String × Json)) :
    ∀ m ∈ members, Unmistakable (memberAt level) m := by
  cases members with
  | nil => simp
  | cons m rest =>
    obtain ⟨k, v⟩ := m
    exact List.forall_mem_cons.mpr
      ⟨unmistakable_memberAt (unmistakable_textAt level v), unmistakable_members level rest⟩

end

/-- **No two values have the same text.** -/
theorem text_injective : Function.Injective text := by
  intro v v' h
  have hnil : StartsNoDigit [] := by
    intro c hc
    cases hc
  exact (unmistakable_textAt 0 v v' [] [] hnil hnil (congrArg (·.toList ++ []) h)).1

end Preflight.Json
