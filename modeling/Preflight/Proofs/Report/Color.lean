import Mathlib.Data.List.Forall2
import Preflight.Proofs.Report.Json
import Preflight.Proofs.Text.Blank
import Preflight.Proofs.Text.Escape
import Preflight.Report.Render

/-!
# Reports without their colours

A report for a terminal holds escape sequences that set colours. Removing them gives the report
that is written without colours. A sequence is read from left to right and may begin in one part of
a report and end in the next, so what a part shows is said for every text that may follow it; parts
put together then show their plain parts put together, up to the whole report.

## Main definitions

* `withoutColors`: a text without the escape sequences that set colours.
* `Shows`: a text that is another one once its colours are removed, whatever comes after it.
* `AnalysisResult.shownTexts`: the texts of a result that a report may show.

## Main results

* `Shows.append`, `ShowsEach.intercalate`: texts and lines put together.
* `shows_scoreTable`, `shows_briefingReport`: the reports for a terminal.
* `escapeFree_textAt`, `escapeFree_markdownReport`: the reports that never have colours.
* `withoutColors_render`: a report without its colours is the report written without them.
-/

namespace Preflight

open Preflight.Text

/-! ### Removing colours -/

/-- The rest of a text after an escape sequence for a colour: the escape character, a bracket,
digits and the letter that ends it. -/
def afterColor? : List Char → Option (List Char)
  | '\x1b' :: '[' :: rest =>
    match rest.dropWhile Char.isDigit with
    | 'm' :: after => if (rest.takeWhile Char.isDigit).isEmpty then none else some after
    | _ => none
  | _ => none

/-- A text without its escape sequences for colours. The number is how many characters belong to
one already read. -/
def withoutColorsFrom : Nat → List Char → List Char
  | _, [] => []
  | n + 1, _ :: cs => withoutColorsFrom n cs
  | 0, c :: cs =>
    match afterColor? (c :: cs) with
    | some after => withoutColorsFrom (cs.length - after.length) cs
    | none => c :: withoutColorsFrom 0 cs

/-- A text without its escape sequences for colours. -/
def withoutColors (s : String) : String := String.ofList (withoutColorsFrom 0 s.toList)

theorem withoutColorsFrom_append (front rest : List Char) :
    withoutColorsFrom front.length (front ++ rest) = withoutColorsFrom 0 rest := by
  induction front with
  | nil => rfl
  | cons c front ih => exact ih

theorem withoutColorsFrom_color {digits : List Char} (hne : digits ≠ [])
    (hdigits : ∀ c ∈ digits, c.isDigit = true) (rest : List Char) :
    withoutColorsFrom 0 (escapeChar :: '[' :: digits ++ 'm' :: rest) = withoutColorsFrom 0 rest := by
  have htake : (digits ++ 'm' :: rest).takeWhile Char.isDigit = digits := by
    rw [List.takeWhile_append_of_pos hdigits, List.takeWhile_cons_of_neg (by decide),
      List.append_nil]
  have hdrop : (digits ++ 'm' :: rest).dropWhile Char.isDigit = 'm' :: rest := by
    rw [List.dropWhile_append_of_pos hdigits, List.dropWhile_cons_of_neg (by decide)]
  have hafter : afterColor? (escapeChar :: '[' :: (digits ++ 'm' :: rest)) = some rest := by
    simp only [afterColor?, escapeChar]
    rw [hdrop, htake]
    simp [hne]
  rw [List.cons_append, List.cons_append, withoutColorsFrom, hafter]
  have hlength : ('[' :: (digits ++ 'm' :: rest)).length - rest.length =
      ('[' :: (digits ++ ['m'])).length := by
    simp only [List.length_cons, List.length_append, List.length_nil]
    omega
  dsimp only
  rw [hlength]
  have hsplit : '[' :: (digits ++ 'm' :: rest) = '[' :: (digits ++ ['m']) ++ rest := by simp
  rw [hsplit]
  exact withoutColorsFrom_append _ rest

theorem withoutColorsFrom_cons {c : Char} (h : c ≠ escapeChar) (rest : List Char) :
    withoutColorsFrom 0 (c :: rest) = c :: withoutColorsFrom 0 rest := by
  have hnone : afterColor? (c :: rest) = none := by
    rw [afterColor?]
    intro after heq
    exact h (List.cons.inj heq).1
  rw [withoutColorsFrom, hnone]

/-! ### Texts that show others -/

/-- A text shows one without escape characters: it is that text once its colours are removed,
whatever comes after it. -/
structure Shows (shown plain : String) : Prop where
  escapeFree : EscapeFree plain
  reads : ∀ rest, withoutColorsFrom 0 (shown.toList ++ rest) =
    plain.toList ++ withoutColorsFrom 0 rest

theorem Shows.withoutColors_eq {shown plain : String} (h : Shows shown plain) :
    withoutColors shown = plain := by
  have hreads := h.reads []
  rw [List.append_nil, withoutColorsFrom, List.append_nil] at hreads
  rw [withoutColors, hreads, String.ofList_toList]

/-- A text without escape characters shows itself. -/
theorem shows_self {s : String} (h : EscapeFree s) : Shows s s := by
  refine ⟨h, fun rest => ?_⟩
  rw [EscapeFree] at h
  generalize s.toList = cs at h ⊢
  induction cs with
  | nil => rfl
  | cons c cs ih =>
    obtain ⟨hc, hcs⟩ := List.ne_and_not_mem_of_not_mem_cons h
    rw [List.cons_append, withoutColorsFrom_cons hc.symm, ih hcs, List.cons_append]

theorem Shows.append {shown plain shown' plain' : String} (h : Shows shown plain)
    (h' : Shows shown' plain') : Shows (shown ++ shown') (plain ++ plain') := by
  refine ⟨escapeFree_append.mpr ⟨h.escapeFree, h'.escapeFree⟩, fun rest => ?_⟩
  rw [String.toList_append, String.toList_append, List.append_assoc, h.reads, h'.reads,
    List.append_assoc]

/-- A sequence that sets a colour shows nothing. -/
theorem shows_color {code : String} {digits : List Char} (hne : digits ≠ [])
    (hdigits : digits.all Char.isDigit = true)
    (hcode : code.toList = escapeChar :: '[' :: digits ++ ['m']) : Shows code "" := by
  refine ⟨by decide, fun rest => ?_⟩
  rw [hcode, List.append_assoc]
  exact withoutColorsFrom_color hne (List.all_eq_true.mp hdigits) rest

theorem shows_code (shade : Shade) : Shows shade.code "" := by
  cases shade with
  | red => exact @shows_color _ ['3', '1'] (by decide) (by decide) (by decide)
  | yellow => exact @shows_color _ ['3', '3'] (by decide) (by decide) (by decide)
  | green => exact @shows_color _ ['3', '2'] (by decide) (by decide) (by decide)
  | bold => exact @shows_color _ ['1'] (by decide) (by decide) (by decide)
  | dim => exact @shows_color _ ['2'] (by decide) (by decide) (by decide)

theorem shows_codes (shades : List Shade) : Shows (String.join (shades.map (·.code))) "" := by
  induction shades with
  | nil => exact shows_self (by decide)
  | cons shade shades ih =>
    rw [List.map_cons, String.join_cons]
    exact (shows_code shade).append ih

/-- A text in some shades shows it without them. -/
theorem shows_wrap (shades : List Shade) {s : String} (h : EscapeFree s) :
    Shows (Style.wrap ⟨true⟩ shades s) (Style.wrap ⟨false⟩ shades s) := by
  have hreset : Shows resetCode "" :=
    @shows_color _ ['0'] (by decide) (by decide) (by decide)
  have hshown := ((shows_codes shades).append (shows_self h)).append hreset
  rwa [String.empty_append, String.append_empty] at hshown

/-! ### Lines -/

/-- Lines that show others, one by one. -/
abbrev ShowsEach (shown plain : List String) : Prop := List.Forall₂ Shows shown plain

theorem showsEach_self {lines : List String} (h : ∀ s ∈ lines, EscapeFree s) :
    ShowsEach lines lines :=
  List.forall₂_same.mpr fun s hs => shows_self (h s hs)

theorem ShowsEach.append {shown plain shown' plain' : List String} (h : ShowsEach shown plain)
    (h' : ShowsEach shown' plain') : ShowsEach (shown ++ shown') (plain ++ plain') :=
  List.rel_append h h'

theorem showsEach_flatMap {α : Type} {shown plain : α → List String} {as : List α}
    (h : ∀ a ∈ as, ShowsEach (shown a) (plain a)) :
    ShowsEach (as.flatMap shown) (as.flatMap plain) := by
  induction as with
  | nil => exact List.Forall₂.nil
  | cons a as ih =>
    obtain ⟨ha, hrest⟩ := List.forall_mem_cons.mp h
    exact ha.append (ih hrest)

theorem ShowsEach.intercalate {shown plain : List String} {sep : String} (hsep : EscapeFree sep)
    (h : ShowsEach shown plain) : Shows (sep.intercalate shown) (sep.intercalate plain) := by
  induction h with
  | nil =>
    rw [String.intercalate_nil]
    exact shows_self (by decide)
  | cons hline hrest ih =>
    cases hrest with
    | nil =>
      rw [String.intercalate_singleton, String.intercalate_singleton]
      exact hline
    | cons hnext hrest =>
      rw [String.intercalate_cons_cons, String.intercalate_cons_cons]
      exact (hline.append (shows_self hsep)).append ih

/-! ### The table of scores -/

/-- A text ends in a character that is not blank. -/
def EndsInked (s : String) : Prop := ∃ front c, s.toList = front ++ [c] ∧ isBlank c = false

theorem EndsInked.append {s : String} (h : EndsInked s) (t : String) : EndsInked (t ++ s) := by
  obtain ⟨front, c, hs, hc⟩ := h
  exact ⟨t.toList ++ front, c, by rw [String.toList_append, hs, List.append_assoc], hc⟩

theorem endsInked_repr (n : Nat) : EndsInked (Nat.repr n) := by
  have hne : (Nat.repr n).toList ≠ [] := by
    rw [toList_repr]
    exact Nat.toDigits_ne_nil
  refine ⟨_, _, (List.dropLast_append_getLast hne).symm, ?_⟩
  exact isBlank_of_isDigit (isDigit_of_mem_repr (List.getLast_mem hne))

theorem endsInked_toString (n : Int) : EndsInked (toString n) := by
  cases n with
  | ofNat n => exact endsInked_repr n
  | negSucc n => exact (endsInked_repr (n + 1)).append "-"

theorem endsInked_wrap (style : Style) (shades : List Shade) {s : String} (h : EndsInked s) :
    EndsInked (style.wrap shades s) := by
  have hreset : EndsInked resetCode := ⟨"\x1b[0".toList, 'm', by decide, by decide⟩
  rw [Style.wrap]
  split
  · exact hreset.append _
  · exact h

/-- Blanks are trimmed behind the last character that is none. -/
theorem trimRight_append {s : String} (h : EndsInked s) (t : String) :
    trimRight (s ++ t) = s ++ trimRight t := by
  obtain ⟨front, c, hs, hc⟩ := h
  rw [trimRight, trimRight, String.toList_append, hs, List.append_assoc, List.singleton_append,
    trimEnd_append hc, ← String.toList_inj, String.toList_append, String.toList_ofList,
    String.toList_ofList, hs, List.append_assoc, List.singleton_append]

theorem escapeFree_trimRight {s : String} (h : EscapeFree s) : EscapeFree (trimRight s) := by
  rw [trimRight, escapeFree_ofList]
  exact fun hescape => h ((trimEnd_isPrefixOf s.toList).subset hescape)

theorem escapeFree_replicate (n : Nat) {c : Char} (h : escapeChar ≠ c) :
    EscapeFree (String.ofList (List.replicate n c)) :=
  escapeFree_ofList.mpr fun hmem => h (List.eq_of_mem_replicate hmem)

theorem escapeFree_blanks (n : Nat) : EscapeFree (blanks n) := escapeFree_replicate n (by decide)

theorem escapeFree_padRight {s : String} (h : EscapeFree s) (width : Nat) :
    EscapeFree (padRight width s) :=
  escapeFree_append.mpr ⟨h, escapeFree_blanks _⟩

theorem escapeFree_verdict (overall : Int) : EscapeFree (verdict overall) := by
  rw [verdict]
  split
  · exact escapeFree_ofList.mpr (by decide)
  split
  · exact escapeFree_ofList.mpr (by decide)
  · exact escapeFree_ofList.mpr (by decide)

theorem escapeFree_getD {issues : List String} (h : ∀ s ∈ issues, EscapeFree s) {otherwise : String}
    (hother : EscapeFree otherwise) (i : Nat) : EscapeFree (issues[i]?.getD otherwise) := by
  cases hissue : issues[i]? with
  | none => exact hother
  | some issue => exact h issue (List.mem_of_getElem? hissue)

/-- The texts of a score that reports show. -/
def FileScore.shownTexts (s : FileScore) : List String := s.path :: s.issues

/-- The row of a file is trimmed behind its score or later. -/
theorem tableRow_eq (style : Style) (s : FileScore) : tableRow style s =
    padRight 40 s.path ++ " " ++ style.wrap [scoreShade s.score] (toString s.score) ++
      trimRight (blanks (8 - (toString s.score).length) ++ " " ++
        padRight 24 (s.issues.head?.getD cleanLabel) ++ " " ++ s.issues[1]?.getD "") := by
  have hinked := (endsInked_wrap style [scoreShade s.score] (endsInked_toString s.score)).append
    (padRight 40 s.path ++ " ")
  rw [← trimRight_append hinked, tableRow]
  simp only [String.append_assoc]

/-- The colour of a score takes no part in the trimming of its row. -/
theorem shows_tableRow {s : FileScore} (h : ∀ t ∈ s.shownTexts, EscapeFree t) :
    Shows (tableRow ⟨true⟩ s) (tableRow ⟨false⟩ s) := by
  obtain ⟨hpath, hissues⟩ := List.forall_mem_cons.mp h
  have hfront : EscapeFree (padRight 40 s.path ++ " ") :=
    escapeFree_append.mpr ⟨escapeFree_padRight hpath 40, by decide⟩
  have hissue : EscapeFree (s.issues.head?.getD cleanLabel) := by
    rw [List.head?_eq_getElem?]
    exact escapeFree_getD hissues (by decide) 0
  have hback : EscapeFree (blanks (8 - (toString s.score).length) ++ " " ++
      padRight 24 (s.issues.head?.getD cleanLabel) ++ " " ++ s.issues[1]?.getD "") := by
    simp only [escapeFree_append]
    exact ⟨⟨⟨⟨escapeFree_blanks _, by decide⟩, escapeFree_padRight hissue 24⟩, by decide⟩,
      escapeFree_getD hissues (by decide) 1⟩
  rw [tableRow_eq, tableRow_eq]
  exact ((shows_self hfront).append (shows_wrap _ (escapeFree_toString s.score))).append
    (shows_self (escapeFree_trimRight hback))

theorem shows_explanation (s : SignalScores) :
    Shows (explanation ⟨true⟩ s) (explanation ⟨false⟩ s) := by
  refine shows_wrap _ ?_
  simp only [escapeFree_append, escapeFree_toString, and_true]
  decide

theorem showsEach_tableLines {s : FileScore} (h : ∀ t ∈ s.shownTexts, EscapeFree t)
    (explain : Bool) :
    ShowsEach (tableLines ⟨true⟩ explain s) (tableLines ⟨false⟩ explain s) := by
  rw [tableLines, tableLines]
  refine List.Forall₂.cons (shows_tableRow h) ?_
  cases s.signals with
  | none => exact List.Forall₂.nil
  | some signals =>
    cases explain with
    | false => exact List.Forall₂.nil
    | true => exact List.Forall₂.cons (shows_explanation signals) List.Forall₂.nil

/-- What is advised, each on a line. -/
theorem showsEach_advice {items : List String} (h : ∀ s ∈ items, EscapeFree s) :
    ShowsEach (items.map fun item => "→ " ++ item) (items.map fun item => "→ " ++ item) := by
  refine showsEach_self fun line hline => ?_
  obtain ⟨item, hitem, rfl⟩ := List.mem_map.mp hline
  exact escapeFree_append.mpr ⟨by decide, h item hitem⟩

theorem shows_scoreTable {r : AnalysisResult}
    (hfiles : ∀ f ∈ r.files, ∀ t ∈ f.score.shownTexts, EscapeFree t)
    (hadvice : ∀ s ∈ r.recommendations, EscapeFree s) (explain : Bool) :
    Shows (scoreTable r explain ⟨true⟩) (scoreTable r explain ⟨false⟩) := by
  have hcolumns : EscapeFree (padRight 40 "FILE" ++ " " ++ padRight 8 "SCORE" ++ " " ++
      padRight 24 "TOP ISSUE" ++ " FIX") := by
    simp only [padRight, escapeFree_append, escapeFree_blanks, and_true]
    decide
  have hhead : ShowsEach
      [Style.wrap ⟨true⟩ [.bold] "ai-ready" ++ ": codebase scan complete", "", tableHead ⟨true⟩]
      [Style.wrap ⟨false⟩ [.bold] "ai-ready" ++ ": codebase scan complete", "",
        tableHead ⟨false⟩] :=
    .cons ((shows_wrap _ (by decide)).append (shows_self (escapeFree_ofList.mpr (by decide))))
      (.cons (shows_self (by decide)) (.cons (shows_wrap _ hcolumns) .nil))
  have hrows := hhead.append
    (showsEach_flatMap fun f hf => showsEach_tableLines (hfiles f hf) explain)
  have hoverall : EscapeFree ("overall: " ++ toString r.overall ++ "/100") := by
    simp only [escapeFree_append, escapeFree_toString, and_true]
    decide
  have hscore : ShowsEach
      ["", Style.wrap ⟨true⟩ [.bold] ("overall: " ++ toString r.overall ++ "/100") ++ " " ++
        verdict r.overall]
      ["", Style.wrap ⟨false⟩ [.bold] ("overall: " ++ toString r.overall ++ "/100") ++ " " ++
        verdict r.overall] :=
    .cons (shows_self (by decide)) (.cons (((shows_wrap _ hoverall).append
      (shows_self (by decide))).append (shows_self (escapeFree_verdict r.overall))) .nil)
  exact ((hrows.append hscore).append (showsEach_advice hadvice)).intercalate (by decide)

/-! ### The briefing -/

theorem mem_of_mem_splitSentences {cs part : List Char} (h : part ∈ splitSentences cs) {c : Char}
    (hc : c ∈ part) : c ∈ cs := by
  fun_induction splitSentences cs generalizing part with
  | case1 =>
    obtain rfl := List.mem_singleton.mp h
    exact hc
  | case2 rest ih =>
    rcases List.mem_cons.mp h with rfl | h
    · cases hc
    · exact List.mem_cons_of_mem _ (List.mem_cons_of_mem _ (ih h hc))
  | case3 x rest _ hnil =>
    obtain rfl := List.mem_singleton.mp h
    rcases List.mem_cons.mp hc with rfl | hc
    · exact List.mem_cons_self ..
    · cases hc
  | case4 x rest _ first more hsplit ih =>
    rcases List.mem_cons.mp h with rfl | h
    · rcases List.mem_cons.mp hc with rfl | hc
      · exact List.mem_cons_self ..
      · exact List.mem_cons_of_mem _ (ih (hsplit ▸ List.mem_cons_self ..) hc)
    · exact List.mem_cons_of_mem _ (ih (hsplit ▸ List.mem_cons_of_mem _ h) hc)

theorem escapeFree_sentences {text : String} (h : EscapeFree text) :
    ∀ s ∈ sentences text, EscapeFree s := by
  intro s hs
  simp only [sentences, List.mem_map, List.mem_filter] at hs
  obtain ⟨-, ⟨⟨part, hpart, rfl⟩, -⟩, rfl⟩ := hs
  have hnone : escapeChar ∉ strip part := fun hescape =>
    h (mem_of_mem_splitSentences hpart (mem_of_mem_strip hescape))
  rw [escapeFree_ofList]
  split
  · exact hnone
  · rw [List.mem_append, List.mem_singleton, not_or]
    exact ⟨hnone, by decide⟩

/-- The texts of a risk profile that reports show. -/
def RiskProfile.shownTexts (p : RiskProfile) : List String :=
  [p.file, p.level.name, p.briefing] ++ p.circularDeps ++ p.globalMutations.map (·.name)

theorem shows_riskBadge {level : RiskLevel} (h : EscapeFree level.name) :
    Shows (riskBadge ⟨true⟩ level) (riskBadge ⟨false⟩ level) := by
  have hbadge : EscapeFree ("[" ++ uppercase level.name ++ " RISK]") := by
    simp only [escapeFree_append]
    exact ⟨⟨by decide, h.uppercase⟩, by decide⟩
  cases level with
  | high => exact shows_wrap _ hbadge
  | medium => exact shows_wrap _ hbadge
  | low => exact shows_wrap _ hbadge
  | custom name => exact shows_self hbadge

/-- A mark in a colour, and what follows it on the line. -/
theorem shows_marked (shade : Shade) {mark line : String} (hmark : EscapeFree mark)
    (hline : EscapeFree line) :
    Shows (Style.wrap ⟨true⟩ [shade] mark ++ line) (Style.wrap ⟨false⟩ [shade] mark ++ line) :=
  (shows_wrap _ hmark).append (shows_self hline)

theorem showsEach_briefingBlock {p : RiskProfile} (h : ∀ t ∈ p.shownTexts, EscapeFree t) :
    ShowsEach (briefingBlock ⟨true⟩ p) (briefingBlock ⟨false⟩ p) := by
  obtain ⟨⟨hlabels, hcircular⟩, hnames⟩ : ((∀ t ∈ [p.file, p.level.name, p.briefing],
      EscapeFree t) ∧ ∀ t ∈ p.circularDeps, EscapeFree t) ∧
        ∀ t ∈ p.globalMutations.map (·.name), EscapeFree t := by
    rwa [RiskProfile.shownTexts, List.forall_mem_append, List.forall_mem_append] at h
  have hwarn : EscapeFree "  ⚠ " := by decide
  have hok : EscapeFree "  ✓ " := by decide
  have hcomma : EscapeFree ", " := by decide
  rw [briefingBlock, briefingBlock]
  simp only [String.append_assoc]
  refine (((((ShowsEach.append ?file ?circular).append ?incoming).append ?mutations).append
    ?missing).append ?tests).append ?advice
  case file =>
    exact .cons ((shows_self (hlabels _ (by simp))).append ((shows_self (by decide)).append
      (shows_riskBadge (hlabels _ (by simp))))) .nil
  case circular =>
    refine .cons ?_ .nil
    split
    · exact shows_marked _ hwarn (escapeFree_append.mpr ⟨by decide, hcomma.intercalate hcircular⟩)
    split
    · exact shows_marked _ hwarn (escapeFree_ofList.mpr (by decide))
    · exact shows_marked _ hok (escapeFree_ofList.mpr (by decide))
  case incoming =>
    split
    · exact .nil
    · refine .cons (shows_marked _ hwarn ?_) .nil
      simp only [escapeFree_append, escapeFree_toString_nat, true_and]
      decide
  case mutations =>
    split
    · exact .nil
    · refine .cons (shows_marked _ hwarn (escapeFree_append.mpr ⟨by decide,
        hcomma.intercalate fun t ht => ?_⟩)) .nil
      obtain ⟨m, hm, rfl⟩ := List.mem_map.mp ht
      simp only [escapeFree_append, escapeFree_toString, true_and]
      exact ⟨hnames _ (List.mem_map_of_mem hm), by decide⟩
  case missing =>
    refine .cons ?_ .nil
    split
    · exact shows_marked _ hok (by decide)
    · refine shows_marked _ hwarn ?_
      simp only [escapeFree_append, escapeFree_toString, true_and]
      decide
  case tests =>
    refine .cons ?_ .nil
    split
    · refine shows_marked _ hok ?_
      simp only [escapeFree_append, escapeFree_toString, true_and]
      decide
    · exact shows_marked _ hwarn (by decide)
  case advice =>
    split
    · exact .nil
    · refine List.forall₂_map_left_iff.mpr (List.forall₂_map_right_iff.mpr
        (List.forall₂_same.mpr fun sentence hsentence => ?_))
      have hfree := escapeFree_sentences (hlabels p.briefing (by simp)) sentence hsentence
      exact shows_wrap _ (escapeFree_append.mpr ⟨by decide, hfree⟩)

theorem shows_briefingReport {r : AnalysisResult}
    (hfiles : ∀ f ∈ r.files, ∀ t ∈ f.risk.shownTexts, EscapeFree t)
    (hsummary : EscapeFree r.summary) (hadvice : ∀ s ∈ r.recommendations, EscapeFree s) :
    Shows (briefingReport r ⟨true⟩) (briefingReport r ⟨false⟩) := by
  have hempty : ShowsEach [""] [""] := .cons (shows_self (by decide)) .nil
  have hseparator : Shows separatorLine separatorLine :=
    shows_self (escapeFree_replicate 40 (by decide))
  have hhead : ShowsEach
      ["", Style.wrap ⟨true⟩ [.bold] "ai-ready: pre-session briefing", separatorLine, ""]
      ["", Style.wrap ⟨false⟩ [.bold] "ai-ready: pre-session briefing", separatorLine, ""] :=
    .cons (shows_self (by decide)) (.cons (shows_wrap _ (by decide)) (.cons hseparator hempty))
  have hblocks := hhead.append (showsEach_flatMap fun f hf =>
    (showsEach_briefingBlock (hfiles f hf)).append hempty)
  have hsum : ShowsEach [separatorLine, r.summary] [separatorLine, r.summary] :=
    .cons hseparator (.cons (shows_self hsummary) .nil)
  exact (((hblocks.append hsum).append (showsEach_advice hadvice)).append hempty).intercalate
    (by decide)

/-! ### Reports without colours -/

theorem escapeChar_notMem_ite {p : Prop} [Decidable p] {cs ds : List Char}
    (hcs : escapeChar ∉ cs) (hds : escapeChar ∉ ds) : escapeChar ∉ if p then cs else ds := by
  split
  · exact hcs
  · exact hds

theorem escapeChar_notMem_escapedChar (c : Char) : escapeChar ∉ Json.escapedChar c := by
  have hcontrol : ∀ n < 0x20, escapeChar ∉ '\\' :: 'u' :: hexPadded 4 n := by decide
  have hothers : escapeChar ∉ if c < ' ' then '\\' :: 'u' :: hexPadded 4 c.toNat else [c] := by
    split
    · next hspace => exact hcontrol c.toNat hspace
    · next hspace =>
      rw [List.mem_singleton]
      rintro rfl
      exact hspace (by decide)
  rw [Json.escapedChar]
  iterate 7 refine escapeChar_notMem_ite (by decide) ?_
  exact hothers

/-- The escape character of a text is written as an escape of the format. -/
theorem escapeFree_stringText (s : String) : EscapeFree (Json.stringText s) := by
  rw [Json.stringText, escapeFree_ofList]
  simp only [List.cons_append, List.mem_cons, List.mem_append, List.mem_flatMap, List.not_mem_nil,
    or_false, not_or, not_exists, not_and]
  exact ⟨by decide, fun c _ => escapeChar_notMem_escapedChar c, by decide⟩

theorem escapeFree_block (level : Nat) {opening closing : String} (hopening : EscapeFree opening)
    (hclosing : EscapeFree closing) {items : List String} (h : ∀ s ∈ items, EscapeFree s) :
    EscapeFree (Json.block level opening closing items) := by
  have hnewLine : ∀ level, EscapeFree (Json.newLine level) := fun level =>
    escapeFree_append.mpr ⟨by decide, escapeFree_replicate _ (by decide)⟩
  have hcomma : EscapeFree ("," ++ Json.newLine (level + 1)) :=
    escapeFree_append.mpr ⟨by decide, hnewLine _⟩
  rw [Json.block]
  split
  · exact escapeFree_append.mpr ⟨hopening, hclosing⟩
  · simp only [escapeFree_append]
    exact ⟨⟨⟨⟨hopening, hnewLine _⟩, hcomma.intercalate h⟩, hnewLine _⟩, hclosing⟩

mutual

theorem escapeFree_textAt (level : Nat) (v : Json) : EscapeFree (v.textAt level) := by
  cases v with
  | null =>
    rw [Json.textAt]
    decide
  | bool b =>
    rw [Json.textAt]
    cases b <;> decide
  | num n => exact escapeFree_toString n
  | str s => exact escapeFree_stringText s
  | arr values =>
    rw [Json.textAt]
    exact escapeFree_block level (by decide) (by decide) (escapeFree_textsAt (level + 1) values)
  | obj members =>
    rw [Json.textAt]
    exact escapeFree_block level (by decide) (by decide) (escapeFree_membersAt (level + 1) members)

theorem escapeFree_textsAt (level : Nat) (values : List Json) :
    ∀ s ∈ Json.textsAt level values, EscapeFree s := by
  cases values with
  | nil => simp [Json.textsAt]
  | cons v rest =>
    rw [Json.textsAt]
    exact List.forall_mem_cons.mpr ⟨escapeFree_textAt level v, escapeFree_textsAt level rest⟩

theorem escapeFree_membersAt (level : Nat) (members : List (String × Json)) :
    ∀ s ∈ Json.membersAt level members, EscapeFree s := by
  cases members with
  | nil => simp [Json.membersAt]
  | cons m rest =>
    obtain ⟨k, v⟩ := m
    rw [Json.membersAt]
    have hmember : EscapeFree (Json.stringText k ++ ": " ++ v.textAt level) := by
      simp only [escapeFree_append]
      exact ⟨⟨escapeFree_stringText k, by decide⟩, escapeFree_textAt level v⟩
    exact List.forall_mem_cons.mpr ⟨hmember, escapeFree_membersAt level rest⟩

end

theorem escapeFree_tableCells {cells : List String} (h : ∀ s ∈ cells, EscapeFree s) :
    EscapeFree (tableCells cells) := by
  have hbar : EscapeFree " | " := by decide
  simp only [tableCells, escapeFree_append]
  exact ⟨⟨by decide, hbar.intercalate h⟩, by decide⟩

theorem escapeFree_codeSpan {s : String} (h : EscapeFree s) : EscapeFree (codeSpan s) := by
  simp only [codeSpan, escapeFree_append]
  exact ⟨⟨by decide, h⟩, by decide⟩

/-- The texts of a result that reports show. -/
def FileResult.shownTexts (f : FileResult) : List String :=
  f.path :: (f.score.shownTexts ++ f.risk.shownTexts)

theorem escapeFree_scoreRow {f : FileResult} (h : ∀ t ∈ f.shownTexts, EscapeFree t) :
    EscapeFree (scoreRow f) := by
  obtain ⟨hpath, hrest⟩ := List.forall_mem_cons.mp h
  obtain ⟨-, hissues⟩ := List.forall_mem_cons.mp (List.forall_mem_append.mp hrest).1
  have hissue : EscapeFree (f.score.issues.head?.getD "clean") := by
    rw [List.head?_eq_getElem?]
    exact escapeFree_getD hissues (by decide) 0
  refine escapeFree_tableCells (List.forall_mem_cons.mpr ⟨escapeFree_codeSpan hpath,
    List.forall_mem_cons.mpr ⟨escapeFree_toString _, List.forall_mem_cons.mpr ⟨hissue,
      List.forall_mem_singleton.mpr (escapeFree_getD hissues (by decide) 1)⟩⟩⟩)

theorem escapeFree_riskRow {f : FileResult} (h : ∀ t ∈ f.shownTexts, EscapeFree t) :
    EscapeFree (riskRow f) := by
  have hrisk := (List.forall_mem_append.mp (List.forall_mem_cons.mp h).2).2
  have hlabels : ∀ t ∈ [f.risk.file, f.risk.level.name, f.risk.briefing], EscapeFree t :=
    fun t ht => hrisk t (List.mem_append_left _ (List.mem_append_left _ ht))
  refine escapeFree_tableCells (List.forall_mem_cons.mpr
    ⟨escapeFree_codeSpan (hlabels _ (by simp)), List.forall_mem_cons.mpr
      ⟨hlabels _ (by simp), List.forall_mem_cons.mpr ⟨escapeFree_toString_nat _,
        List.forall_mem_cons.mpr ⟨escapeFree_toString_nat _,
          List.forall_mem_singleton.mpr (hlabels _ (by simp))⟩⟩⟩⟩)

/-- The texts of the results of an analysis that reports show. -/
def AnalysisResult.shownTexts (r : AnalysisResult) : List String :=
  r.projectRoot :: r.summary :: (r.recommendations ++ r.files.flatMap (·.shownTexts))

theorem escapeFree_scoreDocument {r : AnalysisResult}
    (hfiles : ∀ f ∈ r.files, ∀ t ∈ f.shownTexts, EscapeFree t) :
    ∀ line ∈ scoreDocument r, EscapeFree line := by
  have hoverall : EscapeFree ("**Overall: " ++ toString r.overall ++ "/100** " ++
      verdict r.overall) := by
    simp only [escapeFree_append, escapeFree_toString, escapeFree_verdict, and_true]
    decide
  have hhead : ∀ line ∈ ["", "| File | Score | Top issue | Fix |", "|---|---:|---|---|"],
      EscapeFree line := by decide
  refine List.forall_mem_append.mpr ⟨List.forall_mem_cons.mpr ⟨hoverall, hhead⟩, ?_⟩
  exact List.forall_mem_map.mpr fun f hf => escapeFree_scoreRow (hfiles f hf)

theorem escapeFree_riskDocument {r : AnalysisResult} (hsummary : EscapeFree r.summary)
    (hfiles : ∀ f ∈ r.files, ∀ t ∈ f.shownTexts, EscapeFree t) :
    ∀ line ∈ riskDocument r, EscapeFree line := by
  have hhead : ∀ line ∈ ["", "| File | Risk | Imported by | Untested importers | Briefing |",
      "|---|---|---:|---:|---|"], EscapeFree line := by decide
  refine List.forall_mem_append.mpr ⟨List.forall_mem_cons.mpr ⟨hsummary, hhead⟩, ?_⟩
  exact List.forall_mem_map.mpr fun f hf => escapeFree_riskRow (hfiles f hf)

theorem escapeFree_nextSteps {items : List String} (h : ∀ s ∈ items, EscapeFree s) :
    ∀ line ∈ ["", "## Next steps", ""] ++ items.map (fun item => "- " ++ item),
      EscapeFree line := by
  refine List.forall_mem_append.mpr ⟨by decide, List.forall_mem_map.mpr fun item hitem => ?_⟩
  exact escapeFree_append.mpr ⟨by decide, h item hitem⟩

theorem AnalysisResult.escapeFree_parts {r : AnalysisResult}
    (h : ∀ t ∈ r.shownTexts, EscapeFree t) :
    EscapeFree r.projectRoot ∧ EscapeFree r.summary ∧ (∀ s ∈ r.recommendations, EscapeFree s) ∧
      ∀ f ∈ r.files, ∀ t ∈ f.shownTexts, EscapeFree t := by
  obtain ⟨hroot, hsummary, hrest⟩ := by
    rwa [shownTexts, List.forall_mem_cons, List.forall_mem_cons] at h
  obtain ⟨hadvice, hfiles⟩ := List.forall_mem_append.mp hrest
  exact ⟨hroot, hsummary, hadvice, fun f hf t ht =>
    hfiles t (List.mem_flatMap.mpr ⟨f, hf, ht⟩)⟩

theorem escapeFree_markdownReport {r : AnalysisResult} (h : ∀ t ∈ r.shownTexts, EscapeFree t) :
    EscapeFree (markdownReport r) := by
  obtain ⟨hroot, hsummary, hadvice, hfiles⟩ := r.escapeFree_parts h
  have hhead : ∀ line ∈ ["# ai-ready report", "", "Project root: " ++ codeSpan r.projectRoot, ""],
      EscapeFree line := by
    simp only [List.forall_mem_cons, escapeFree_append, escapeFree_codeSpan hroot, and_true]
    decide
  have hbody : ∀ line ∈ (if r.policy = .score then scoreDocument r else riskDocument r),
      EscapeFree line := by
    split
    · exact escapeFree_scoreDocument hfiles
    · exact escapeFree_riskDocument hsummary hfiles
  have hsteps : ∀ line ∈ (if r.recommendations.isEmpty then []
      else ["", "## Next steps", ""] ++ r.recommendations.map fun item => "- " ++ item),
      EscapeFree line := by
    split
    · exact List.forall_mem_nil _
    · exact escapeFree_nextSteps hadvice
  have hlines : ∀ line ∈ markdownLines r, EscapeFree line :=
    List.forall_mem_append.mpr ⟨List.forall_mem_append.mpr ⟨hhead, hbody⟩, hsteps⟩
  refine EscapeFree.join (List.forall_mem_map.mpr fun line hline => ?_)
  exact escapeFree_append.mpr ⟨hlines line hline, by decide⟩

theorem shows_render {r : AnalysisResult} (h : ∀ t ∈ r.shownTexts, EscapeFree t) (format : Format)
    (explain : Bool) : Shows (render r format explain true) (render r format explain false) := by
  obtain ⟨-, hsummary, hadvice, hfiles⟩ := r.escapeFree_parts h
  have hscores : ∀ f ∈ r.files, ∀ t ∈ f.score.shownTexts, EscapeFree t := fun f hf t ht =>
    hfiles f hf t (List.mem_cons_of_mem _ (List.mem_append_left _ ht))
  have hrisks : ∀ f ∈ r.files, ∀ t ∈ f.risk.shownTexts, EscapeFree t := fun f hf t ht =>
    hfiles f hf t (List.mem_cons_of_mem _ (List.mem_append_right _ ht))
  cases format with
  | json => exact shows_self (escapeFree_textAt 0 r.toJson)
  | markdown => exact shows_self (escapeFree_markdownReport h)
  | table =>
    rw [render, render]
    split
    · exact shows_scoreTable hscores hadvice explain
    · exact shows_briefingReport hrisks hsummary hadvice

/-- **Reports without colours.** Once the escape sequences for colours are removed, a report with
colours is the report without them, in every form and with explanations or not: the same lines, the
same blanks between the columns and none at the ends of the rows of the table. The report without
colours holds no escape character. This takes texts without escape characters. -/
theorem withoutColors_render {r : AnalysisResult} (h : ∀ t ∈ r.shownTexts, EscapeFree t)
    (format : Format) (explain : Bool) :
    withoutColors (render r format explain true) = render r format explain false ∧
      EscapeFree (render r format explain false) :=
  ⟨(shows_render h format explain).withoutColors_eq, (shows_render h format explain).escapeFree⟩

/-- The report on a file without a test, whose score is red. -/
theorem withoutColors_render_untested :
    let untested : AnalysisResult := {
      policy := .score, projectRoot := "/p",
      files := [⟨{ path := "a.ts" }, ⟨"a.ts", 25, ["no test file found"], none⟩,
        { file := "a.ts", level := .high }⟩],
      overall := 25, counts := {}, summary := "", recommendations := ["a.ts: no test file found"] }
    (∀ t ∈ untested.shownTexts, EscapeFree t) ∧
      (withoutColors (render untested .table true true) = render untested .table true false ∧
        EscapeFree (render untested .table true false)) ∧
      Style.wrap ⟨true⟩ [scoreShade 25] "25" = "\x1b[31m25\x1b[0m" := by
  intro untested
  have hfree : ∀ t ∈ untested.shownTexts, EscapeFree t := by decide
  exact ⟨hfree, withoutColors_render hfree .table true, by decide⟩

end Preflight
