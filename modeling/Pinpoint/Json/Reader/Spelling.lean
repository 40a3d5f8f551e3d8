import Pinpoint.Json.Grammar
import Pinpoint.Json.Reader

/-! Reading a value is hearing its events. Whatever the spelling of a value, a reader that has read
it stands where the listener's hearing of the events puts it; only of a numeral does it learn the
end from what comes behind it. -/
namespace Pinpoint.Json.Reader

variable {σ ε : Type} (l : Listener σ ε)

theorem run_blanks {blanks : List Char} (nothing : Blanks blanks) (kept : σ)
    (brackets : List Bracket) (place : Place) :
    run l (.between kept brackets place) blanks = .between kept brackets place := by
  induction blanks with
  | nil => rfl
  | cons c cs ih =>
    have blank : isBlank c := isBlank_iff.mpr (nothing c (List.mem_cons_self ..))
    rw [run_cons, step, stepBetween, if_pos blank]
    exact ih fun d there => nothing d (List.mem_cons_of_mem c there)

theorem escaped?_of_spells {c letter : Char} (spells : SpellsEscape c letter) :
    StringBody.escaped? letter = some c := by
  cases spells <;> rfl

theorem hexDigit?_of_spells {value : Nat} {c : Char} (spells : SpellsHexDigit value c) :
    StringBody.hexDigit? c = some value := by
  have lower : ∀ p ∈ "0123456789abcdef".toList.zipIdx,
      StringBody.hexDigit? p.1 = some p.2 := by decide
  have upper : ∀ p ∈ "0123456789ABCDEF".toList.zipIdx,
      StringBody.hexDigit? p.1 = some p.2 := by decide
  obtain there | there := spells
  · exact lower (c, value) (List.mem_zipIdx_iff_getElem?.mpr there)
  · exact upper (c, value) (List.mem_zipIdx_iff_getElem?.mpr there)

theorem utf8Size_of_spells {value : Nat} {c : Char} (spells : SpellsHexDigit value c) :
    c.utf8Size = 1 := by
  have lower : ∀ d ∈ "0123456789abcdef".toList, d.utf8Size = 1 := by simp [Char.utf8Size]
  have upper : ∀ d ∈ "0123456789ABCDEF".toList, d.utf8Size = 1 := by simp [Char.utf8Size]
  obtain there | there := spells
  · exact lower c (List.mem_of_getElem? there)
  · exact upper c (List.mem_of_getElem? there)

theorem hexValue?_of_spells {code : Nat} {digits : List Char} (spells : SpellsCode code digits) :
    StringBody.hexValue? digits = some code := by
  obtain ⟨w, x, y, z⟩ := spells
  simp only [StringBody.hexValue?, List.foldlM_cons, List.foldlM_nil, hexDigit?_of_spells w,
    hexDigit?_of_spells x, hexDigit?_of_spells y, hexDigit?_of_spells z, bind, Option.bind, pure,
    Option.some.injEq]
  omega

/-- An escaped code is taken as soon as its fourth digit is read. -/
theorem run_code {code : Nat} {digits : List Char} (spells : SpellsCode code digits) {text : String}
    (kept : σ) (brackets : List Bracket) (isKey : Bool) (wait : List Char → StringBody.Phase)
    (take : StringBody → Nat → StringBody.Outcome)
    (reads : ∀ digits x, StringBody.next ⟨text, wait digits⟩ (l.attends kept) x =
      StringBody.takeDigit ⟨text, wait digits⟩ digits x wait (take ⟨text, wait digits⟩))
    (next : StringBody) (taken : ∀ digits, take ⟨text, wait digits⟩ code = .more next) :
    run l (.within kept brackets (.string isKey ⟨text, wait []⟩)) digits =
      .within kept brackets (.string isKey next) := by
  have value := hexValue?_of_spells spells
  obtain ⟨w, x, y, z⟩ := spells
  simp [run_cons, step, stepWithin, reads, StringBody.takeDigit, StringBody.codeSize,
    utf8Size_of_spells w, utf8Size_of_spells x, utf8Size_of_spells y, utf8Size_of_spells z, value,
    taken]

/-- Behind the first half of a pair, the second one is waited for. -/
theorem run_firstHalf {high : Nat} {digits : List Char} (small : high < 0x400)
    (spells : SpellsCode (0xD800 + high) digits) (kept : σ) (brackets : List Bracket)
    (isKey : Bool) (before : String) :
    run l (.within kept brackets (.string isKey ⟨before, .plain⟩)) ('\\' :: 'u' :: digits) =
      .within kept brackets (.string isKey ⟨before, .pair (0xD800 + high)⟩) := by
  have isHigh : StringBody.isHigh (0xD800 + high) := StringBody.isHigh_iff.mpr (by omega)
  exact run_code l spells kept brackets isKey .code (·.takeCode (l.attends kept)) (fun _ _ => rfl) _
    fun digits => by simp [StringBody.takeCode, isHigh]

/-- A character at the end of one text is one at the beginning of the next. -/
theorem push_append_ofList (s : String) (c : Char) (cs : List Char) :
    s.push c ++ String.ofList cs = s ++ String.ofList (c :: cs) := by
  rw [String.push_eq_append, String.ofList_cons, String.append_assoc]

/-- The text of a string is what its characters spell. -/
theorem run_body {text spelled : List Char} (spells : SpellsBody text spelled) (kept : σ)
    (brackets : List Bracket) (isKey : Bool) (before : String) :
    run l (.within kept brackets (.string isKey ⟨before, .plain⟩)) spelled =
      .within kept brackets (.string isKey ⟨before ++ String.ofList text, .plain⟩) := by
  induction spells generalizing before with
  | nil => simp
  | @plain c text spelled quote backslash control rest ih =>
    have taken : StringBody.next ⟨before, .plain⟩ (l.attends kept) c =
        .more ⟨before.push c, .plain⟩ := by
      simp [StringBody.next, StringBody.takePlain, StringBody.push, quote, backslash,
        Nat.not_lt.mpr control]
    rw [run_cons, step, stepWithin, taken, ← push_append_ofList]
    exact ih _
  | @escape letter c text spelled known rest ih =>
    have notCode : letter ≠ 'u' := by
      rintro rfl
      cases known
    have taken : StringBody.next ⟨before, .escape⟩ (l.attends kept) letter =
        .more ⟨before.push c, .plain⟩ := by
      simp [StringBody.next, StringBody.takeEscape, StringBody.push, notCode,
        escaped?_of_spells known]
    rw [run_cons, run_cons, ← push_append_ofList, ← ih]
    change run l (stepWithin l kept brackets letter (.string isKey ⟨before, .escape⟩)) spelled = _
    rw [stepWithin, taken]
  | @code code digits text spelled spells alone rest ih =>
    have high : ¬ StringBody.isHigh code := by
      rw [StringBody.isHigh_iff]
      omega
    have low : ¬ StringBody.isLow code := by
      rw [StringBody.isLow_iff]
      omega
    have read : run l (.within kept brackets (.string isKey ⟨before, .plain⟩))
        ('\\' :: 'u' :: digits) =
        .within kept brackets (.string isKey ⟨before.push (Char.ofNat code), .plain⟩) :=
      run_code l spells kept brackets isKey .code (·.takeCode (l.attends kept)) (fun _ _ => rfl) _
        fun digits => by simp [StringBody.takeCode, StringBody.push, high, low]
    rw [run_append, read, ih, push_append_ofList]
  | @pair high low first second text spelled highSmall lowSmall spells spells' rest ih =>
    have isLow : StringBody.isLow (0xDC00 + low) := StringBody.isLow_iff.mpr (by omega)
    have joined : StringBody.joinHalves (0xD800 + high) (0xDC00 + low) =
        0x10000 + high * 0x400 + low := by
      unfold StringBody.joinHalves
      omega
    have read : run l (.within kept brackets (.string isKey ⟨before, .pair (0xD800 + high)⟩))
        ('\\' :: 'u' :: second) = .within kept brackets (.string isKey
          ⟨before.push (Char.ofNat (0x10000 + high * 0x400 + low)), .plain⟩) :=
      run_code l spells' kept brackets isKey (.pairCode (0xD800 + high))
        (·.takeSecond (l.attends kept) (0xD800 + high)) (fun _ _ => rfl) _
        fun digits => by simp [StringBody.takeSecond, StringBody.push, isLow, joined]
    rw [run_append, run_append, run_firstHalf l highSmall spells, read, ih, push_append_ofList]

theorem run_string {text : List Char} {spelled : List Char} (spells : SpellsBody text spelled)
    (kept : σ) (brackets : List Bracket) (isKey : Bool) :
    run l (.within kept brackets (.string isKey {})) (spelled ++ ['"']) =
      if isKey then tell l kept (.key (String.ofList text)) brackets .colon
      else tell l kept (.string (String.ofList text)) brackets .after := by
  have empty : "" ++ String.ofList text = String.ofList text := by simp
  rw [run_append, run_body l spells, empty]
  rfl

theorem run_key {key : String} {spelled : List Char} (spells : SpellsString key spelled) (kept : σ)
    (brackets : List Bracket) {place : Place} (ready : place = .key ∨ place = .firstKey) :
    run l (.between kept brackets place) spelled = tell l kept (.key key) brackets .colon := by
  obtain ⟨spells⟩ := spells
  have read := run_string l spells kept brackets true
  rw [String.ofList_toList] at read
  rcases ready with rfl | rfl
  · exact read
  · exact read

theorem digit?_digitChar {d : Nat} (small : d < 10) :
    Numeral.digit? (Nat.digitChar d) = some d := by
  have all : ∀ d < 10, Numeral.digit? (Nat.digitChar d) = some d := by decide
  exact all d small

/-- Digits that all go to the same place are kept one in front of the other. -/
theorem run_digits {ds : List Nat} (small : ∀ d ∈ ds, d < 10) (kept : σ)
    (brackets : List Bracket) (held : List Nat) (place : List Nat → Numeral.Reading)
    (takes : ∀ held d, (place held).digit d = .more (place (d :: held))) :
    run l (.within kept brackets (.numeral (place held))) (digitText ds) =
      .within kept brackets (.numeral (place (ds ++ held))) := by
  induction ds with
  | nil => rfl
  | cons d ds ih =>
    have spelled : digitText (d :: ds) = digitText ds ++ [Nat.digitChar d] := by
      simp [digitText]
    have taken :
        (place (ds ++ held)).next (Nat.digitChar d) = .more (place (d :: (ds ++ held))) := by
      rw [Numeral.Reading.next, digit?_digitChar (small d (List.mem_cons_self ..))]
      exact takes _ _
    rw [spelled, run_append, ih fun x there => small x (List.mem_cons_of_mem d there)]
    change stepWithin l kept brackets _ (.numeral (place (ds ++ held))) = _
    rw [stepWithin, taken]
    rfl

theorem run_firstDigit {d : Nat} (small : d < 10) (negative : Bool) (kept : σ)
    (brackets : List Bracket) :
    run l (.between kept brackets .value) ((if negative then ['-'] else []) ++ [Nat.digitChar d]) =
      .within kept brackets
        (.numeral ⟨{ negative, whole := [d] }, if d = 0 then .zero else .whole⟩) := by
  have cases : d = 0 ∨ d = 1 ∨ d = 2 ∨ d = 3 ∨ d = 4 ∨ d = 5 ∨ d = 6 ∨ d = 7 ∨ d = 8 ∨ d = 9 := by
    omega
  rcases cases with rfl | rfl | rfl | rfl | rfl | rfl | rfl | rfl | rfl | rfl <;>
    cases negative <;> rfl

theorem run_whole {ds : List Nat} {spelled : List Char} (spells : SpellsWhole ds spelled)
    (negative : Bool) (kept : σ) (brackets : List Bracket) :
    ∃ part, (part = .zero ∨ part = .whole) ∧
      run l (.between kept brackets .value) ((if negative then ['-'] else []) ++ spelled) =
        .within kept brackets (.numeral ⟨{ negative, whole := ds }, part⟩) := by
  cases spells with
  | zero => exact ⟨.zero, .inl rfl, by cases negative <;> rfl⟩
  | @digits first ds positive small =>
    refine ⟨.whole, .inr rfl, ?_⟩
    have spelled : digitText (ds ++ [first]) = [Nat.digitChar first] ++ digitText ds := by
      simp [digitText]
    have begun := run_firstDigit l (small first (List.mem_cons_self ..)) negative kept brackets
    rw [if_neg (Nat.ne_of_gt positive)] at begun
    rw [spelled, ← List.append_assoc, run_append, begun]
    exact run_digits l (fun d there => small d (List.mem_cons_of_mem first there)) kept brackets
      [first] (fun held => ⟨{ negative, whole := held }, .whole⟩) (fun held d => rfl)

theorem run_fraction {ds : List Nat} {spelled : List Char} (spells : SpellsFraction ds spelled)
    {negative : Bool} {whole : List Nat} {part : Numeral.Part}
    (ready : part = .zero ∨ part = .whole) (kept : σ) (brackets : List Bracket) :
    ∃ part', (part' = .zero ∨ part' = .whole ∨ part' = .fraction) ∧
      run l (.within kept brackets (.numeral ⟨{ negative, whole }, part⟩)) spelled =
        .within kept brackets (.numeral ⟨{ negative, whole, fraction := ds }, part'⟩) := by
  cases spells with
  | none => exact ⟨part, by rcases ready with rfl | rfl <;> simp, rfl⟩
  | @digits d ds small =>
    refine ⟨.fraction, .inr (.inr rfl), ?_⟩
    have point : step l (.within kept brackets (.numeral ⟨{ negative, whole }, part⟩)) '.' =
        .within kept brackets (.numeral ⟨{ negative, whole }, .point⟩) := by
      rcases ready with rfl | rfl <;> rfl
    have digits := run_digits l small kept brackets []
      (fun held => ⟨{ negative, whole, fraction := held },
        if held.isEmpty then .point else .fraction⟩)
      (fun held d => by cases held <;> rfl)
    rw [run_cons, point]
    simpa using digits

theorem run_exponent {negativeExponent : Bool} {ds : List Nat} {spelled : List Char}
    (spells : SpellsExponent negativeExponent ds spelled) {negative : Bool}
    {whole fraction : List Nat} {part : Numeral.Part}
    (ready : part = .zero ∨ part = .whole ∨ part = .fraction) (kept : σ)
    (brackets : List Bracket) :
    ∃ part', part'.mayEnd ∧
      run l (.within kept brackets (.numeral ⟨{ negative, whole, fraction }, part⟩)) spelled =
        .within kept brackets
          (.numeral ⟨⟨negative, whole, fraction, negativeExponent, ds⟩, part'⟩) := by
  cases spells with
  | none => exact ⟨part, by rcases ready with rfl | rfl | rfl <;> rfl, rfl⟩
  | @digits _ mark sign d ds isMark spellsSign small =>
    refine ⟨.exponent, rfl, ?_⟩
    have marked : step l (.within kept brackets (.numeral ⟨{ negative, whole, fraction }, part⟩))
        mark = .within kept brackets (.numeral ⟨{ negative, whole, fraction }, .mark⟩) := by
      rcases isMark with rfl | rfl <;> rcases ready with rfl | rfl | rfl <;> rfl
    obtain ⟨part', ready, signed⟩ : ∃ part', (part' = .mark ∨ part' = .exponentSign) ∧
        run l (.within kept brackets (.numeral ⟨{ negative, whole, fraction }, .mark⟩)) sign =
          .within kept brackets
            (.numeral ⟨{ negative, whole, fraction, negativeExponent }, part'⟩) := by
      cases spellsSign with
      | none => exact ⟨.mark, .inl rfl, rfl⟩
      | plus | minus => exact ⟨.exponentSign, .inr rfl, rfl⟩
    have digits := run_digits l small kept brackets []
      (fun held => ⟨⟨negative, whole, fraction, negativeExponent, held⟩,
        if held.isEmpty then part' else .exponent⟩)
      (fun held d => by cases held <;> rcases ready with rfl | rfl <;> rfl)
    rw [List.cons_append, run_cons, marked, run_append, signed]
    simpa using digits

theorem run_numeral {n : Numeral} {spelled : List Char} (spells : SpellsNumeral n spelled)
    (kept : σ) (brackets : List Bracket) :
    ∃ reading : Numeral.Reading, reading.ended? = some n ∧
      run l (.between kept brackets .value) spelled =
        .within kept brackets (.numeral reading) := by
  cases spells with
  | @parts whole fraction exponent spellsWhole spellsFraction spellsExponent =>
    obtain ⟨part, ready, first⟩ := run_whole l spellsWhole n.negative kept brackets
    obtain ⟨part, ready, second⟩ := run_fraction l spellsFraction ready kept brackets
    obtain ⟨part, ready, third⟩ := run_exponent l spellsExponent ready kept brackets
    refine ⟨⟨n, part⟩, by rw [Numeral.Reading.ended?, if_pos ready], ?_⟩
    rw [run_append, run_append, first, second, third]

/-- A character that may come directly behind a value. -/
def Follows (c : Char) : Prop :=
  isBlank c ∨ c = ',' ∨ c = ']' ∨ c = '\x7d'

/-- What may come behind a value is no part of a numeral. -/
theorem next_of_follows {reading : Numeral.Reading} {n : Numeral}
    (ended : reading.ended? = some n) {c : Char} (follows : Follows c) :
    reading.next c = .over n := by
  have cases : c = ' ' ∨ c = '\t' ∨ c = '\n' ∨ c = '\r' ∨ c = ',' ∨ c = ']' ∨ c = '\x7d' := by
    simpa [Follows, isBlank, or_assoc] using follows
  obtain ⟨numeral, part⟩ := reading
  cases part <;> cases ended <;>
    rcases cases with rfl | rfl | rfl | rfl | rfl | rfl | rfl <;> rfl

/-- Where a reader stands once the listener has heard events. -/
def heard (kept : σ) (events : List Event) (brackets : List Bracket) (place : Place) :
    State σ ε :=
  match l.hearAll kept events with
  | .ok kept => .between kept brackets place
  | .error why => .failed why

theorem heard_singleton (kept : σ) (event : Event) (brackets : List Bracket) (place : Place) :
    heard l kept [event] brackets place = tell l kept event brackets place := by
  cases heard : l.hear kept event <;>
    simp [Reader.heard, tell, Listener.hearAll, heard, bind, Except.bind, pure, Except.pure]

theorem heard_ok {kept kept' : σ} {event : Event} (said : l.hear kept event = .ok kept')
    (events : List Event) (brackets : List Bracket) (place : Place) :
    heard l kept (event :: events) brackets place = heard l kept' events brackets place := by
  simp [heard, Listener.hearAll, said, bind, Except.bind]

theorem heard_error {kept : σ} {event : Event} {why : Failure ε}
    (said : l.hear kept event = .error why) (events : List Event) (brackets : List Bracket)
    (place : Place) : heard l kept (event :: events) brackets place = .failed why := by
  simp [heard, Listener.hearAll, said, bind, Except.bind]

/-- Reading on behind events, where the listener has not failed. -/
theorem run_heard (kept : σ) (first second : List Event) (brackets brackets' : List Bracket)
    (place place' : Place) (cs : List Char)
    (reads : ∀ kept, run l (.between kept brackets place) cs =
      heard l kept second brackets' place') :
    run l (heard l kept first brackets place) cs =
      heard l kept (first ++ second) brackets' place' := by
  have both : l.hearAll kept (first ++ second) =
      l.hearAll kept first >>= fun kept => l.hearAll kept second :=
    List.foldlM_append
  cases first : l.hearAll kept first with
  | ok kept => simpa [heard, both, first, bind, Except.bind] using reads kept
  | error why => simpa [heard, both, first, bind, Except.bind] using run_failed l why cs

/-- Two states that nothing that may come behind a value tells apart. -/
structure Alike (state state' : State σ ε) : Prop where
  step : ∀ c, Follows c → step l state c = step l state' c
  endOfText : endOfText l state = endOfText l state'

theorem Alike.refl (state : State σ ε) : Alike l state state :=
  ⟨fun _ _ => rfl, rfl⟩

theorem Alike.run {state state' : State σ ε} (alike : Alike l state state') {c : Char}
    (follows : Follows c) (cs : List Char) :
    run l state (c :: cs) = run l state' (c :: cs) := by
  rw [run_cons, run_cons, alike.step c follows]

theorem Alike.run_blanks {state state' : State σ ε} (alike : Alike l state state')
    {blanks : List Char} (nothing : Blanks blanks) :
    Alike l (Reader.run l state blanks) (Reader.run l state' blanks) := by
  cases blanks with
  | nil => exact alike
  | cons c cs =>
    rw [alike.run l (.inl (isBlank_iff.mpr (nothing c (List.mem_cons_self ..))))]
    exact Alike.refl l _

theorem first_of_spellsWhole {ds : List Nat} {spelled : List Char}
    (spells : SpellsWhole ds spelled) :
    ∃ c cs, spelled = c :: cs ∧ isBlank c = false ∧ c ≠ ']' := by
  cases spells with
  | zero => exact ⟨'0', [], rfl, rfl, by decide⟩
  | @digits first ds _ small =>
    have known : ∀ d < 10, isBlank (Nat.digitChar d) = false ∧ Nat.digitChar d ≠ ']' := by decide
    exact ⟨Nat.digitChar first, digitText ds, by simp [digitText],
      known first (small first (List.mem_cons_self ..))⟩

/-- No value begins with a blank or with the end of a list. -/
theorem first_of_spells {value : Value} {spelled : List Char} (spells : Spells value spelled) :
    ∃ c cs, spelled = c :: cs ∧ isBlank c = false ∧ c ≠ ']' := by
  cases spells with
  | @number n _ spells =>
    obtain ⟨spellsWhole, _, _⟩ := spells
    cases n.negative with
    | true => exact ⟨'-', _, rfl, rfl, by decide⟩
    | false =>
      obtain ⟨c, cs, rfl, known⟩ := first_of_spellsWhole spellsWhole
      exact ⟨c, _, rfl, known⟩
  | string spells =>
    cases spells
    exact ⟨'"', _, rfl, rfl, by decide⟩
  | _ => exact ⟨_, _, rfl, rfl, by decide⟩

/-- An item is read alike, whether it is the first one or not. -/
theorem run_firstItem {value : Value} {spelled : List Char} (spells : Spells value spelled)
    (kept : σ) (brackets : List Bracket) :
    run l (.between kept brackets .firstItem) spelled =
      run l (.between kept brackets .value) spelled := by
  obtain ⟨c, cs, rfl, nonblank, inside⟩ := first_of_spells spells
  simp [run_cons, step, stepBetween, beginToken, nonblank, inside]

/-- Where a numeral has ended, whatever comes behind it is read as it is behind its event. -/
theorem alike_numeral {reading : Numeral.Reading} {n : Numeral} (ended : reading.ended? = some n)
    (kept : σ) (brackets : List Bracket) :
    Alike l (.within kept brackets (.numeral reading))
      (tell l kept (.number n) brackets .after) := by
  constructor
  · intro c follows
    rw [step, stepWithin, next_of_follows ended follows]
    cases said : l.hear kept (.number n) <;> simp [tell, said, step]
  · rw [endOfText, ended]
    cases said : l.hear kept (.number n) <;> simp [tell, said, endOfText]

theorem run_heard_blanks {blanks : List Char} (nothing : Blanks blanks) (kept : σ)
    (events : List Event) (brackets : List Bracket) (place : Place) :
    run l (heard l kept events brackets place) blanks = heard l kept events brackets place := by
  unfold heard
  cases l.hearAll kept events with
  | ok kept => exact run_blanks l nothing kept brackets place
  | error why => exact run_failed l why blanks

/-- An item with the blanks around it is read as the value alone is. -/
theorem run_item {item : Value} {before spelled after : List Char} {kept : σ}
    {brackets : List Bracket} (blank : Blanks before) (spells : Spells item spelled)
    (blank' : Blanks after)
    (reads : Alike l (run l (.between kept brackets .value) spelled)
      (heard l kept item.events brackets .after))
    {place : Place} (ready : place = .value ∨ place = .firstItem) :
    Alike l (run l (.between kept brackets place) (before ++ spelled ++ after))
      (heard l kept item.events brackets .after) := by
  have same : run l (.between kept brackets place) spelled =
      run l (.between kept brackets .value) spelled := by
    rcases ready with rfl | rfl
    · rfl
    · exact run_firstItem l spells kept brackets
  have alike := reads.run_blanks l blank'
  rw [run_heard_blanks l blank'] at alike
  rw [run_append, run_append, run_blanks l blank, same]
  exact alike

mutual

theorem run_value {value : Value} {spelled : List Char} (spells : Spells value spelled) (kept : σ)
    (brackets : List Bracket) :
    Alike l (run l (.between kept brackets .value) spelled)
      (heard l kept value.events brackets .after) := by
  cases spells with
  | null | true | false =>
    rw [Value.events, heard_singleton]
    exact Alike.refl l _
  | @number n _ spells =>
    obtain ⟨reading, ended, read⟩ := run_numeral l spells kept brackets
    rw [Value.events, heard_singleton, read]
    exact alike_numeral l ended kept brackets
  | string spells =>
    obtain ⟨spells⟩ := spells
    rw [Value.events, heard_singleton, List.cons_append]
    have read := run_string l spells kept brackets false
    rw [String.ofList_toList] at read
    exact read ▸ Alike.refl l _
  | @emptyList blanks nothing =>
    have read := run_heard l kept [.openList] [.closeList] (.list :: brackets) brackets .firstItem
      .after (blanks ++ [']']) fun kept => by
        rw [run_append, run_blanks l nothing, heard_singleton]
        rfl
    rw [heard_singleton] at read
    exact (show run l (.between kept brackets .value) ('[' :: blanks ++ [']']) = _ from read) ▸
      Alike.refl l _
  | @list items spelled spells =>
    have read := run_heard l kept [.openList] (Value.itemEvents items ++ [.closeList])
      (.list :: brackets) brackets .firstItem .after (spelled ++ [']']) fun kept =>
        run_items spells kept brackets (.inr rfl)
    rw [heard_singleton] at read
    exact (show run l (.between kept brackets .value) ('[' :: spelled ++ [']']) = _ from read) ▸
      Alike.refl l _
  | @emptyObject blanks nothing =>
    have read := run_heard l kept [.openObject] [.closeObject] (.object :: brackets) brackets
      .firstKey .after (blanks ++ ['\x7d']) fun kept => by
        rw [run_append, run_blanks l nothing, heard_singleton]
        rfl
    rw [heard_singleton] at read
    exact (show run l (.between kept brackets .value) ('\x7b' :: blanks ++ ['\x7d']) = _
      from read) ▸ Alike.refl l _
  | @object members spelled spells =>
    have read := run_heard l kept [.openObject] (Value.memberEvents members ++ [.closeObject])
      (.object :: brackets) brackets .firstKey .after (spelled ++ ['\x7d']) fun kept =>
        run_members spells kept brackets (.inr rfl)
    rw [heard_singleton] at read
    exact (show run l (.between kept brackets .value) ('\x7b' :: spelled ++ ['\x7d']) = _
      from read) ▸ Alike.refl l _

theorem run_items {items : List Value} {spelled : List Char} (spells : SpellsItems items spelled)
    (kept : σ) (outer : List Bracket) {place : Place}
    (ready : place = .value ∨ place = .firstItem) :
    run l (.between kept (.list :: outer) place) (spelled ++ [']']) =
      heard l kept (Value.itemEvents items ++ [.closeList]) outer .after := by
  cases spells with
  | @last item before spelled after blank spells blank' =>
    have alike := run_item l blank spells blank' (run_value spells kept (.list :: outer)) ready
    rw [run_append, alike.run l (.inr (.inr (.inl rfl)))]
    exact run_heard l kept item.events [.closeList] _ _ _ _ _ fun kept => by
      rw [heard_singleton]
      rfl
  | @more item items before spelled after rest blank spells blank' more =>
    have alike := run_item l blank spells blank' (run_value spells kept (.list :: outer)) ready
    rw [List.append_assoc, run_append, List.cons_append, alike.run l (.inr (.inl rfl)),
      Value.itemEvents_cons more.ne_nil, List.append_assoc]
    refine run_heard l kept item.events _ _ _ _ _ _ fun kept => ?_
    have read := run_heard l kept [.next] (Value.itemEvents items ++ [.closeList])
      (.list :: outer) outer .value .after (rest ++ [']']) fun kept =>
        run_items more kept outer (.inl rfl)
    rw [heard_singleton] at read
    exact read

theorem run_members {members : List (String × Value)} {spelled : List Char}
    (spells : SpellsMembers members spelled) (kept : σ) (outer : List Bracket) {place : Place}
    (ready : place = .key ∨ place = .firstKey) :
    run l (.between kept (.object :: outer) place) (spelled ++ ['\x7d']) =
      heard l kept (Value.memberEvents members ++ [.closeObject]) outer .after := by
  cases spells with
  | @last member spelled spells =>
    rw [run_append, (run_member spells kept _ ready).run l (.inr (.inr (.inr rfl)))]
    exact run_heard l kept (Value.pairEvents member) [.closeObject] _ _ _ _ _ fun kept => by
      rw [heard_singleton]
      rfl
  | @more member members spelled rest spells more =>
    rw [List.append_assoc, run_append, List.cons_append,
      (run_member spells kept _ ready).run l (.inr (.inl rfl)), Value.memberEvents_cons more.ne_nil,
      List.append_assoc]
    refine run_heard l kept (Value.pairEvents member) _ _ _ _ _ _ fun kept => ?_
    have read := run_heard l kept [.next] (Value.memberEvents members ++ [.closeObject])
      (.object :: outer) outer .key .after (rest ++ ['\x7d']) fun kept =>
        run_members more kept outer (.inl rfl)
    rw [heard_singleton] at read
    exact read

theorem run_member {member : String × Value} {spelled : List Char}
    (spells : SpellsMember member spelled) (kept : σ) (brackets : List Bracket) {place : Place}
    (ready : place = .key ∨ place = .firstKey) :
    Alike l (run l (.between kept brackets place) spelled)
      (heard l kept (Value.pairEvents member) brackets .after) := by
  cases spells with
  | @pair key value before name between gap spelled after blank spellsKey blank₁ blank₂ spells
      blank₃ =>
    have read : run l (.between kept brackets place) (before ++ name ++ between ++ ':' :: gap) =
        heard l kept [.key key] brackets .value := by
      rw [run_append, run_append, run_append, run_blanks l blank, run_key l spellsKey kept _ ready,
        ← heard_singleton, run_heard_blanks l blank₁]
      exact run_heard l kept [.key key] [] _ _ _ _ _ fun kept => run_blanks l blank₂ kept _ _
    have spelling : before ++ name ++ between ++ ':' :: gap ++ spelled ++ after =
        before ++ name ++ between ++ ':' :: gap ++ (spelled ++ after) := by
      simp
    rw [spelling, run_append, read, Value.pairEvents]
    cases said : l.hear kept (.key key) with
    | error why =>
      rw [heard_error l said, heard_error l said, run_failed]
      exact Alike.refl l _
    | ok kept' =>
      have alike := (run_value spells kept' brackets).run_blanks l blank₃
      rw [run_heard_blanks l blank₃, ← run_append] at alike
      rw [heard_ok l said, heard_ok l said]
      exact alike

end

theorem read_of_spells {value : Value} {text : String} (spells : SpellsText value text.toList)
    (kept : σ) : read l kept text = l.hearAll kept value.events := by
  unfold read
  generalize text.toList = cs at spells
  obtain ⟨blank, spells, blank'⟩ := spells
  have alike := (run_value l spells kept []).run_blanks l blank'
  rw [run_heard_blanks l blank', ← run_append] at alike
  rw [List.append_assoc, run_append, run_blanks l blank, alike.endOfText, heard]
  cases l.hearAll kept value.events <;> rfl

end Pinpoint.Json.Reader
