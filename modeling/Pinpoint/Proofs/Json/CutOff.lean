import Pinpoint.Json.Reader.Spelling
import Pinpoint.Overflow

/-! Texts that are cut off. While a text that suits its listener is read, a reader knows at every
character but the last one that more has to come. Only numerals are to be watched: what is left of
a numeral is a numeral too, so the listener has to take that one as well. -/
namespace Pinpoint.Json

/-- A numeral of a natural number has digits in front of the point and nothing else. -/
def Numeral.Natural (n : Numeral) : Prop :=
  ∃ whole, n = { whole }

/-- Whenever the listener takes a natural number, it takes the one without the last digit. -/
def Listener.TakesShorter {σ ε : Type} (l : Listener σ ε) : Prop :=
  ∀ {kept kept' : σ} {d : Nat} {whole : List Nat},
    l.hear kept (.number { whole := d :: whole }) = .ok kept' →
    ∃ kept', l.hear kept (.number { whole }) = .ok kept'

namespace Reader

variable {σ ε : Type} {l : Listener σ ε}

variable (l) in
/-- A text that ends here ends too early. -/
def Pending (state : State σ ε) : Prop :=
  verdict (endOfText l state) = .error .cutOff

variable (l) in
/-- A text that ends anywhere before the last of these characters ends too early. -/
def Awaits (state : State σ ε) : List Char → Prop
  | [] => True
  | c :: cs => Pending l state ∧ Awaits (step l state c) cs

theorem awaits_append {state : State σ ε} (as bs : List Char) :
    Awaits l state (as ++ bs) ↔ Awaits l state as ∧ Awaits l (run l state as) bs := by
  induction as generalizing state with
  | nil => simp [Awaits]
  | cons a as ih => simp only [List.cons_append, Awaits, run_cons, ih, and_assoc]

/-- Every place but the end of the characters is one where a text ends too early. -/
theorem Awaits.pending {state : State σ ε} {front back : List Char}
    (awaits : Awaits l state (front ++ back)) (proper : back ≠ []) :
    Pending l (run l state front) := by
  obtain ⟨c, cs, rfl⟩ := List.exists_cons_of_ne_nil proper
  exact ((awaits_append _ _).mp awaits).2.1

theorem pending_inside (kept : σ) (innermost : Bracket) (outer : List Bracket) (place : Place) :
    Pending l (.between kept (innermost :: outer) place) :=
  rfl

theorem pending_before {place : Place} (unfinished : place ≠ .after) (kept : σ)
    (brackets : List Bracket) : Pending l (.between kept brackets place) := by
  unfold Pending endOfText verdict
  split
  · rename_i same
    cases same
    exact absurd rfl unfinished
  · rename_i same
    cases same
  · rfl

theorem pending_string (kept : σ) (brackets : List Bracket) (isKey : Bool) (body : StringBody) :
    Pending l (.within kept brackets (.string isKey body)) :=
  rfl

/-- What nothing behind a value tells apart is waited for alike. -/
theorem Alike.awaits {state state' : State σ ε} (alike : Alike l state state') {c : Char}
    (follows : Follows c) {cs : List Char} (rest : Awaits l state' (c :: cs)) :
    Awaits l state (c :: cs) := by
  obtain ⟨pending, more⟩ := rest
  refine ⟨?_, ?_⟩
  · rw [Pending, alike.endOfText]
    exact pending
  · rw [alike.step c follows]
    exact more

theorem awaits_blanks {blanks cs : List Char} (nothing : Blanks blanks) {kept : σ}
    {innermost : Bracket} {outer : List Bracket} {place : Place}
    (rest : Awaits l (.between kept (innermost :: outer) place) cs) :
    Awaits l (.between kept (innermost :: outer) place) (blanks ++ cs) := by
  refine (awaits_append _ _).mpr ⟨?_, by rwa [run_blanks l nothing]⟩
  induction blanks with
  | nil => trivial
  | cons c blanks ih =>
    have blank : isBlank c := isBlank_iff.mpr (nothing c List.mem_cons_self)
    refine ⟨pending_inside _ _ _ _, ?_⟩
    rw [step, stepBetween, if_pos blank]
    exact ih fun d there => nothing d (List.mem_cons_of_mem c there)

theorem Alike.awaits_blanks {state : State σ ε} {kept : σ} {innermost : Bracket}
    {outer : List Bracket} {place : Place}
    (alike : Alike l state (.between kept (innermost :: outer) place)) {blanks cs : List Char}
    (nothing : Blanks blanks) {c : Char} (follows : Follows c)
    (rest : Awaits l (.between kept (innermost :: outer) place) (c :: cs)) :
    Awaits l state (blanks ++ c :: cs) := by
  have behind := Reader.awaits_blanks nothing rest
  cases blanks with
  | nil => exact alike.awaits follows behind
  | cons d blanks =>
    exact alike.awaits (.inl (isBlank_iff.mpr (nothing d List.mem_cons_self))) behind

theorem awaits_code {code : Nat} {digits : List Char} (spells : SpellsCode code digits)
    {text : String} {kept : σ} {brackets : List Bracket} {isKey : Bool}
    (wait : List Char → StringBody.Phase) (take : StringBody → Nat → StringBody.Outcome)
    (reads : ∀ digits x, StringBody.next ⟨text, wait digits⟩ (l.attends kept) x =
      StringBody.takeDigit ⟨text, wait digits⟩ digits x wait (take ⟨text, wait digits⟩)) :
    Awaits l (.within kept brackets (.string isKey ⟨text, wait []⟩)) digits := by
  obtain ⟨w, x, y, z⟩ := spells
  simp [Awaits, step, stepWithin, reads, StringBody.takeDigit, StringBody.codeSize,
    utf8Size_of_spells w, utf8Size_of_spells x, utf8Size_of_spells y, pending_string]

theorem awaits_body {text spelled : List Char} (spells : SpellsBody text spelled) {kept : σ}
    {brackets : List Bracket} {isKey : Bool} (before : String) :
    Awaits l (.within kept brackets (.string isKey ⟨before, .plain⟩)) spelled := by
  induction spells generalizing before with
  | nil => trivial
  | @plain c text spelled quote backslash control rest ih =>
    have read := run_body l (.plain quote backslash control .nil) kept brackets isKey before
    refine (awaits_append [c] _).mpr ⟨⟨pending_string _ _ _ _, trivial⟩, ?_⟩
    rw [read]
    exact ih _
  | @escape letter c text spelled known rest ih =>
    have read := run_body l (.escape known .nil) kept brackets isKey before
    refine (awaits_append ['\\', letter] _).mpr ⟨⟨rfl, rfl, trivial⟩, ?_⟩
    rw [read]
    exact ih _
  | @code code digits text spelled spells alone rest ih =>
    have read := run_body l (.code spells alone .nil) kept brackets isKey before
    rw [List.append_nil] at read
    refine (awaits_append _ _).mpr ⟨⟨rfl, rfl, ?_⟩, ?_⟩
    · exact awaits_code spells .code (·.takeCode (l.attends kept)) fun _ _ => rfl
    · rw [read]
      exact ih _
  | @pair high low first second text spelled highSmall lowSmall spells spells' rest ih =>
    have readFirst := run_firstHalf l highSmall spells kept brackets isKey before
    have read := run_body l (.pair highSmall lowSmall spells spells' .nil) kept brackets isKey
      before
    rw [List.append_nil] at read
    refine (awaits_append _ _).mpr ⟨(awaits_append _ _).mpr ⟨⟨rfl, rfl, ?_⟩, ?_⟩, ?_⟩
    · exact awaits_code spells .code (·.takeCode (l.attends kept)) fun _ _ => rfl
    · rw [readFirst]
      exact ⟨rfl, rfl, awaits_code spells' (.pairCode (0xD800 + high))
        (·.takeSecond (l.attends kept) (0xD800 + high)) fun _ _ => rfl⟩
    · rw [read]
      exact ih _

theorem awaits_string {text : String} {spelled : List Char} (spells : SpellsString text spelled)
    {kept : σ} {brackets : List Bracket} {place : Place}
    (ready : place = .value ∨ place = .key ∨ place = .firstKey) :
    Awaits l (.between kept brackets place) spelled := by
  obtain ⟨spells⟩ := spells
  rename_i body
  have behind : ∀ isKey, Awaits l (.within kept brackets (.string isKey {})) (body ++ ['"']) := by
    intro isKey
    refine (awaits_append _ _).mpr ⟨awaits_body spells "", ?_⟩
    rw [show ({} : StringBody) = ⟨"", .plain⟩ from rfl, run_body l spells]
    exact ⟨pending_string _ _ _ _, trivial⟩
  rcases ready with rfl | rfl | rfl
  · exact ⟨pending_before (by simp) _ _, behind false⟩
  · exact ⟨pending_before (by simp) _ _, behind true⟩
  · exact ⟨pending_before (by simp) _ _, behind true⟩

theorem pending_numeral {whole : List Nat} {kept kept' : σ}
    (heard : l.hear kept (.number { whole }) = .ok kept') (innermost : Bracket)
    (outer : List Bracket) {part : Numeral.Part} (ended : part.mayEnd) :
    Pending l (.within kept (innermost :: outer) (.numeral ⟨{ whole }, part⟩)) := by
  rw [Pending, endOfText, Numeral.Reading.ended?, if_pos ended]
  simp only [tell, heard]
  rfl

/-- Every beginning of the digits of a natural number is a natural number. -/
theorem awaits_digits (takes : l.TakesShorter) {digits held : List Nat}
    (small : ∀ d ∈ digits, d < 10) {kept kept' : σ}
    (heard : l.hear kept (.number { whole := digits ++ held }) = .ok kept') (innermost : Bracket)
    (outer : List Bracket) :
    Awaits l (.within kept (innermost :: outer) (.numeral ⟨{ whole := held }, .whole⟩))
      (digitText digits) := by
  induction digits generalizing kept' with
  | nil => trivial
  | cons d digits ih =>
    have small' : ∀ x ∈ digits, x < 10 := fun x there => small x (List.mem_cons_of_mem d there)
    have spelled : digitText (d :: digits) = digitText digits ++ [Nat.digitChar d] := by
      simp [digitText]
    obtain ⟨_, shorter⟩ := takes heard
    have read := run_digits l small' kept (innermost :: outer) held
      (fun held => ⟨{ whole := held }, .whole⟩) (fun _ _ => rfl)
    rw [spelled, awaits_append, read]
    exact ⟨ih small' shorter, pending_numeral shorter innermost outer rfl, trivial⟩

theorem awaits_numeral (takes : l.TakesShorter) {n : Numeral} (natural : n.Natural)
    {spelled : List Char} (spells : SpellsNumeral n spelled) {kept kept' : σ}
    (heard : l.hear kept (.number n) = .ok kept') (innermost : Bracket) (outer : List Bracket) :
    Awaits l (.between kept (innermost :: outer) .value) spelled := by
  obtain ⟨digits, rfl⟩ := natural
  obtain ⟨spellsWhole, spellsFraction, spellsExponent⟩ := spells
  cases spellsFraction
  cases spellsExponent
  simp only [Bool.false_eq_true, if_false, List.nil_append, List.append_nil]
  cases spellsWhole with
  | zero => exact ⟨rfl, trivial⟩
  | @digits first digits positive small =>
    have spelled : digitText (digits ++ [first]) = [Nat.digitChar first] ++ digitText digits := by
      simp [digitText]
    have begun := run_firstDigit l (small first List.mem_cons_self) false kept (innermost :: outer)
    rw [if_neg (Nat.ne_of_gt positive)] at begun
    rw [spelled, awaits_append]
    refine ⟨⟨rfl, trivial⟩, ?_⟩
    rw [show [Nat.digitChar first] = (if false then ['-'] else []) ++ [Nat.digitChar first] from
      rfl, begun]
    exact awaits_digits takes (fun d there => small d (List.mem_cons_of_mem first there)) heard
      innermost outer

theorem hearAll_cons_eq_ok_iff {kept kept' : σ} {event : Event} {events : List Event} :
    l.hearAll kept (event :: events) = .ok kept' ↔
      ∃ next, l.hear kept event = .ok next ∧ l.hearAll next events = .ok kept' := by
  rw [Listener.hearAll, List.foldlM_cons, bind_eq_ok_iff]
  rfl

theorem hearAll_append_eq_ok_iff {kept kept' : σ} {first second : List Event} :
    l.hearAll kept (first ++ second) = .ok kept' ↔
      ∃ next, l.hearAll kept first = .ok next ∧ l.hearAll next second = .ok kept' := by
  rw [Listener.hearAll, List.foldlM_append, bind_eq_ok_iff]
  rfl

theorem tell_of_hear {kept kept' : σ} {event : Event} (heard : l.hear kept event = .ok kept')
    (brackets : List Bracket) (place : Place) :
    tell l kept event brackets place = .between kept' brackets place := by
  rw [tell, heard]

theorem heard_of_hearAll {kept kept' : σ} {events : List Event}
    (heard : l.hearAll kept events = .ok kept') (brackets : List Bracket) (place : Place) :
    Reader.heard l kept events brackets place = .between kept' brackets place := by
  rw [Reader.heard, heard]

theorem awaits_openList {kept kept' : σ} (opened : l.hear kept .openList = .ok kept')
    {brackets : List Bracket} {cs : List Char}
    (rest : Awaits l (.between kept' (.list :: brackets) .firstItem) cs) :
    Awaits l (.between kept brackets .value) ('[' :: cs) := by
  rw [← tell_of_hear opened] at rest
  exact ⟨pending_before (by simp) kept brackets, rest⟩

theorem awaits_openObject {kept kept' : σ} (opened : l.hear kept .openObject = .ok kept')
    {brackets : List Bracket} {cs : List Char}
    (rest : Awaits l (.between kept' (.object :: brackets) .firstKey) cs) :
    Awaits l (.between kept brackets .value) ('\x7b' :: cs) := by
  rw [← tell_of_hear opened] at rest
  exact ⟨pending_before (by simp) kept brackets, rest⟩

theorem awaits_firstItem {value : Value} {spelled : List Char} (spells : Spells value spelled)
    {kept : σ} {brackets : List Bracket}
    (awaits : Awaits l (.between kept brackets .value) spelled) :
    Awaits l (.between kept brackets .firstItem) spelled := by
  obtain ⟨c, cs, rfl, nonblank, inside⟩ := first_of_spells spells
  obtain ⟨-, more⟩ := awaits
  refine ⟨pending_before (by simp) _ _, ?_⟩
  simpa [step, stepBetween, beginToken, nonblank, inside] using more

/-- An item with the blanks around it is waited for if the value alone is. -/
theorem awaits_item {item : Value} {before spelled after : List Char} (blank : Blanks before)
    (spells : Spells item spelled) (blank' : Blanks after) {kept kept' : σ}
    (heard : l.hearAll kept item.events = .ok kept') {innermost : Bracket} {outer : List Bracket}
    (value : Awaits l (.between kept (innermost :: outer) .value) spelled) {place : Place}
    (ready : place = .value ∨ place = .firstItem) {c : Char} (follows : Follows c) {cs : List Char}
    (rest : Awaits l (.between kept' (innermost :: outer) .after) (c :: cs)) :
    Awaits l (.between kept (innermost :: outer) place)
      (before ++ spelled ++ after ++ c :: cs) := by
  have alike := run_value l spells kept (innermost :: outer)
  rw [heard_of_hearAll heard] at alike
  rw [List.append_assoc, List.append_assoc]
  apply awaits_blanks blank
  rcases ready with rfl | rfl
  · exact (awaits_append _ _).mpr ⟨value, alike.awaits_blanks blank' follows rest⟩
  · rw [awaits_append, run_firstItem l spells]
    exact ⟨awaits_firstItem spells value, alike.awaits_blanks blank' follows rest⟩

mutual

/-- A value that suits the listener is waited for to the last character. A numeral has to stand
within brackets, as nothing tells at the end of a text that it goes on. -/
theorem awaits_value (takes : l.TakesShorter) {value : Value} {spelled : List Char}
    (spells : Spells value spelled) {kept kept' : σ}
    (heard : l.hearAll kept value.events = .ok kept')
    (naturals : ∀ n, Event.number n ∈ value.events → n.Natural) {brackets : List Bracket}
    (inside : ∀ n, value = .number n → brackets ≠ []) :
    Awaits l (.between kept brackets .value) spelled := by
  cases spells with
  | null | true | false => exact ⟨pending_before (by simp) _ _, rfl, rfl, rfl, by trivial⟩
  | @number n _ spells =>
    obtain ⟨innermost, outer, rfl⟩ := List.exists_cons_of_ne_nil (inside n rfl)
    obtain ⟨_, heard, -⟩ := hearAll_cons_eq_ok_iff.mp heard
    exact awaits_numeral takes (naturals n List.mem_cons_self) spells heard innermost outer
  | string spells => exact awaits_string spells (.inl rfl)
  | @emptyList blanks nothing =>
    obtain ⟨_, opened, -⟩ := hearAll_cons_eq_ok_iff.mp heard
    apply awaits_openList opened
    exact awaits_blanks nothing ⟨pending_inside _ _ _ _, trivial⟩
  | @list items spelled spells =>
    obtain ⟨_, opened, heard⟩ := hearAll_cons_eq_ok_iff.mp heard
    obtain ⟨_, heard, -⟩ := hearAll_append_eq_ok_iff.mp heard
    apply awaits_openList opened
    exact awaits_items takes spells heard
      (fun n there => naturals n (by simp [Value.events, there])) (.inr rfl)
  | @emptyObject blanks nothing =>
    obtain ⟨_, opened, -⟩ := hearAll_cons_eq_ok_iff.mp heard
    apply awaits_openObject opened
    exact awaits_blanks nothing ⟨pending_inside _ _ _ _, trivial⟩
  | @object members spelled spells =>
    obtain ⟨_, opened, heard⟩ := hearAll_cons_eq_ok_iff.mp heard
    obtain ⟨_, heard, -⟩ := hearAll_append_eq_ok_iff.mp heard
    apply awaits_openObject opened
    exact awaits_members takes spells heard
      (fun n there => naturals n (by simp [Value.events, there])) (.inr rfl)

theorem awaits_items (takes : l.TakesShorter) {items : List Value} {spelled : List Char}
    (spells : SpellsItems items spelled) {kept kept' : σ}
    (heard : l.hearAll kept (Value.itemEvents items) = .ok kept')
    (naturals : ∀ n, Event.number n ∈ Value.itemEvents items → n.Natural) {outer : List Bracket}
    {place : Place} (ready : place = .value ∨ place = .firstItem) :
    Awaits l (.between kept (.list :: outer) place) (spelled ++ [']']) := by
  cases spells with
  | @last item before spelled after blank spells blank' =>
    have value : Awaits l (.between kept (.list :: outer) .value) spelled :=
      awaits_value takes spells heard naturals (by simp)
    exact awaits_item blank spells blank' heard value ready (.inr (.inr (.inl rfl)))
      ⟨pending_inside _ _ _ _, trivial⟩
  | @more item items before spelled after rest blank spells blank' more =>
    rw [Value.itemEvents_cons more.ne_nil] at heard naturals
    obtain ⟨kept₁, heard, others⟩ := hearAll_append_eq_ok_iff.mp heard
    obtain ⟨kept₂, comma, others⟩ := hearAll_cons_eq_ok_iff.mp others
    have value : Awaits l (.between kept (.list :: outer) .value) spelled :=
      awaits_value takes spells heard (fun n there => naturals n (List.mem_append_left _ there))
        (by simp)
    rw [List.append_assoc, List.cons_append]
    refine awaits_item blank spells blank' heard value ready (.inr (.inl rfl))
      ⟨pending_inside _ _ _ _, ?_⟩
    change Awaits l (tell l kept₁ .next (.list :: outer) .value) (rest ++ [']'])
    rw [tell_of_hear comma]
    exact awaits_items takes more others
      (fun n there => naturals n (List.mem_append_right _ (List.mem_cons_of_mem _ there)))
      (.inl rfl)

theorem awaits_members (takes : l.TakesShorter) {members : List (String × Value)}
    {spelled : List Char} (spells : SpellsMembers members spelled) {kept kept' : σ}
    (heard : l.hearAll kept (Value.memberEvents members) = .ok kept')
    (naturals : ∀ n, Event.number n ∈ Value.memberEvents members → n.Natural)
    {outer : List Bracket} {place : Place} (ready : place = .key ∨ place = .firstKey) :
    Awaits l (.between kept (.object :: outer) place) (spelled ++ ['\x7d']) := by
  cases spells with
  | @last member spelled spells =>
    exact awaits_member takes spells heard naturals ready (.inr (.inr (.inr rfl)))
      ⟨pending_inside _ _ _ _, trivial⟩
  | @more member members spelled rest spells more =>
    rw [Value.memberEvents_cons more.ne_nil] at heard naturals
    obtain ⟨kept₁, heard, others⟩ := hearAll_append_eq_ok_iff.mp heard
    obtain ⟨kept₂, comma, others⟩ := hearAll_cons_eq_ok_iff.mp others
    rw [List.append_assoc, List.cons_append]
    refine awaits_member takes spells heard
      (fun n there => naturals n (List.mem_append_left _ there)) ready (.inr (.inl rfl))
      ⟨pending_inside _ _ _ _, ?_⟩
    change Awaits l (tell l kept₁ .next (.object :: outer) .key) (rest ++ ['\x7d'])
    rw [tell_of_hear comma]
    exact awaits_members takes more others
      (fun n there => naturals n (List.mem_append_right _ (List.mem_cons_of_mem _ there)))
      (.inl rfl)

theorem awaits_member (takes : l.TakesShorter) {member : String × Value} {spelled : List Char}
    (spells : SpellsMember member spelled) {kept kept' : σ}
    (heard : l.hearAll kept (Value.pairEvents member) = .ok kept')
    (naturals : ∀ n, Event.number n ∈ Value.pairEvents member → n.Natural) {innermost : Bracket}
    {outer : List Bracket} {place : Place} (ready : place = .key ∨ place = .firstKey) {c : Char}
    (follows : Follows c) {cs : List Char}
    (rest : Awaits l (.between kept' (innermost :: outer) .after) (c :: cs)) :
    Awaits l (.between kept (innermost :: outer) place) (spelled ++ c :: cs) := by
  cases spells with
  | @pair key value before name between gap spelled after blank spellsKey blank₁ blank₂ spells
      blank₃ =>
    obtain ⟨kept₁, named, heard⟩ := hearAll_cons_eq_ok_iff.mp heard
    have value : Awaits l (.between kept₁ (innermost :: outer) .value) spelled :=
      awaits_value takes spells heard (fun n there => naturals n (List.mem_cons_of_mem _ there))
        (by simp)
    have behind := awaits_item blank₂ spells blank₃ heard value (.inl rfl) follows rest
    have spelling : before ++ name ++ between ++ ':' :: gap ++ spelled ++ after ++ c :: cs =
        before ++ (name ++ (between ++ ':' :: (gap ++ spelled ++ after ++ c :: cs))) := by
      simp
    rw [spelling]
    refine awaits_blanks blank ((awaits_append _ _).mpr ⟨awaits_string spellsKey (.inr ready), ?_⟩)
    rw [run_key l spellsKey kept _ ready, tell_of_hear named]
    exact awaits_blanks blank₁ ⟨pending_inside _ _ _ _, behind⟩

end

/-- A text that suits its listener is reported to end too early wherever it is cut off. -/
theorem read_unfinished (takes : l.TakesShorter) {value : Value} {front back : String}
    (spells : Spells value (front ++ back).toList) {kept kept' : σ}
    (heard : l.hearAll kept value.events = .ok kept')
    (naturals : ∀ n, Event.number n ∈ value.events → n.Natural)
    (inside : ∀ n, value ≠ .number n) (proper : back ≠ "") :
    read l kept front = .error .cutOff := by
  have awaits : Awaits l (.between kept [] .value) (front ++ back).toList :=
    awaits_value takes spells heard naturals fun n same => absurd same (inside n)
  rw [String.toList_append] at awaits
  exact awaits.pending (by simpa using proper)

end Reader
end Pinpoint.Json
