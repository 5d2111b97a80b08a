/-
Gradient calls in joined values. The calls of two values with a comma between them are those of the
one and those of the other, since no call's name runs across a comma. Arguments do: a call that its
own value does not close has the text after the value for arguments too, up to a parenthesis that
closes it there. So the colours of joined values are those of each value when all but the last close
their calls, and a value that leaves one open may always be followed by one that adds a colour.
-/
import CssSurvey.Gradient
import CssSurvey.Proofs.FirstUse
import CssSurvey.Proofs.Text.Caseless
import CssSurvey.Proofs.Text.Cut

namespace CssSurvey.Gradient

open Text

/-! ## Names of calls -/

/-- A reader of the start of a text that does not read across a comma. -/
def StopsAtComma (read : Text → Option Text) : Prop :=
  ∀ text rest, read (text ++ ',' :: rest) = (read text).map (· ++ ',' :: rest)

namespace StopsAtComma

variable {first second : Text → Option Text}

theorem or (hfirst : StopsAtComma first) (hsecond : StopsAtComma second) :
    StopsAtComma fun text => (first text).or (second text) := by
  intro text rest
  show (first _).or (second _) = ((first text).or (second text)).map _
  rw [hfirst, hsecond, Option.map_or]

theorem bind (hfirst : StopsAtComma first) (hsecond : StopsAtComma second) :
    StopsAtComma fun text => (first text).bind second := by
  intro text rest
  show (first _).bind second = ((first text).bind second).map _
  rw [hfirst]
  cases first text with
  | none => rfl
  | some after => exact hsecond after rest

theorem afterWord? {word : Text} (hword : ',' ∉ word) : StopsAtComma (Text.afterWord? word) := by
  have hmark : foldCase ',' ∉ word := hword
  exact afterWord?_append_cons hmark

theorem afterName? : StopsAtComma afterName? := (afterWord? (by decide)).or (afterWord? (by decide))

theorem afterCall? : StopsAtComma afterCall? := ((afterWord? (by decide)).bind afterName?).or afterName?

theorem afterVendor? : StopsAtComma afterVendor? := by
  intro text rest
  have hcomma : isLatinLetter ',' = false := rfl
  cases text with
  | nil => rfl
  | cons c text =>
    by_cases hc : c = '-'
    · subst hc
      simp only [Gradient.afterVendor?, List.cons_append, takeWhile_append_stop hcomma,
        dropWhile_append_stop hcomma]
      cases text.takeWhile isLatinLetter with
      | nil => rfl
      | cons letter letters =>
        cases text.dropWhile isLatinLetter with
        | nil => rfl
        | cons d after =>
          by_cases hd : d = '-'
          · subst hd
            rfl
          · simp [hd]
    · simp [Gradient.afterVendor?, hc]

end StopsAtComma

theorem callAt?_append_comma (text rest : Text) :
    callAt? (text ++ ',' :: rest) = (callAt? text).map (Prod.map id (· ++ ',' :: rest)) := by
  have hvendor : (afterVendor? (text ++ ',' :: rest)).bind afterCall? =
      ((afterVendor? text).bind afterCall?).map (· ++ ',' :: rest) :=
    StopsAtComma.afterVendor?.bind StopsAtComma.afterCall? text rest
  unfold callAt?
  rw [hvendor, StopsAtComma.afterCall? text rest, Option.map_or, Option.map_map, Option.map_map,
    Option.map_map, Option.map_map]
  rfl

/-- The calls before a comma are those of the text before it, each with what follows the comma behind
it; the calls after the comma are those of the rest. -/
theorem calls_append_comma (text rest : Text) :
    calls (text ++ ',' :: rest) = (calls text).map (Prod.map id (· ++ ',' :: rest)) ++ calls rest := by
  induction text with
  | nil => rfl
  | cons c text ih =>
    have hhead := callAt?_append_comma (c :: text) rest
    rw [List.cons_append] at hhead
    rw [List.cons_append, calls, calls, hhead, ih, List.map_append, List.append_assoc, Option.toList_map]

/-- A value and what follows it after a comma and a line feed. -/
theorem calls_join (value rest : Text) :
    calls (value ++ [',', '\n'] ++ rest) =
      (calls value).map (Prod.map id (· ++ [',', '\n'] ++ rest)) ++ calls rest := by
  rw [List.append_assoc]
  show calls (value ++ ',' :: '\n' :: rest) = _
  rw [calls_append_comma]
  simp only [List.append_assoc]
  rfl

/-! ## Arguments -/

/-- How many parentheses that were opened in the arguments of a call are still open at the end of a
text, where `depth` were open before it; none when the text closes the call. -/
def openAfter : Nat → Text → Option Nat
  | depth, [] => some depth
  | depth, c :: rest =>
    if c = ')' ∧ depth = 0 then none
    else openAfter (if c = '(' then depth + 1 else if c = ')' then depth - 1 else depth) rest

/-- A value closes its calls when each of them ends within it. -/
def ClosesCalls (value : Text) : Prop := ∀ call ∈ calls value, openAfter 0 call.2 = none

instance (value : Text) : Decidable (ClosesCalls value) :=
  inferInstanceAs (Decidable (∀ call ∈ calls value, openAfter 0 call.2 = none))

theorem openAfter_append (depth : Nat) (a b : Text) :
    openAfter depth (a ++ b) = (openAfter depth a).bind (openAfter · b) := by
  induction a generalizing depth with
  | nil => rfl
  | cons c a ih =>
    rw [List.cons_append, openAfter, openAfter]
    split
    · rfl
    · exact ih _

theorem openAfter_of_no_paren {text : Text} (h : ∀ c ∈ text, isParen c = false) (depth : Nat) :
    openAfter depth text = some depth := by
  induction text with
  | nil => rfl
  | cons c text ih =>
    obtain ⟨hc, htext⟩ := List.forall_mem_cons.1 h
    obtain ⟨hopen, hclose⟩ : c ≠ '(' ∧ c ≠ ')' := by simpa [isParen] using hc
    rw [openAfter, if_neg fun h => hclose h.1, if_neg hopen, if_neg hclose]
    exact ih htext

/-- A pair of parentheses leaves as many open as were open before it. -/
theorem openAfter_pair {inside : Text} (h : ∀ c ∈ inside, isParen c = false) (depth : Nat) (rest : Text) :
    openAfter depth ('(' :: (inside ++ ')' :: rest)) = openAfter depth rest := by
  rw [openAfter, if_neg (by simp), if_pos rfl, openAfter_append, openAfter_of_no_paren h, Option.bind_some,
    openAfter, if_neg (by simp), if_neg (by decide), if_pos rfl, Nat.add_sub_cancel]

/-- The arguments of a call that is closed do not change with what follows. -/
theorem arguments_append_of_closed {depth : Nat} {a : Text} (h : openAfter depth a = none) (b : Text) :
    arguments depth (a ++ b) = arguments depth a := by
  induction a generalizing depth with
  | nil => cases h
  | cons c a ih =>
    rw [openAfter] at h
    rw [List.cons_append, arguments, arguments]
    split
    · rfl
    · rename_i hc
      rw [if_neg hc] at h
      rw [ih h]

/-- The arguments of a call that is left open go on in what follows. -/
theorem arguments_append_of_open {depth left : Nat} {a : Text} (h : openAfter depth a = some left) (b : Text) :
    arguments depth (a ++ b) = a ++ arguments left b := by
  induction a generalizing depth with
  | nil =>
    cases h
    rfl
  | cons c a ih =>
    rw [openAfter] at h
    split at h
    · cases h
    · rename_i hc
      rw [List.cons_append, arguments, if_neg hc, ih h, List.cons_append]

theorem arguments_of_open {depth left : Nat} {a : Text} (h : openAfter depth a = some left) :
    arguments depth a = a := by
  have happend := arguments_append_of_open h []
  rwa [List.append_nil, arguments, List.append_nil] at happend

theorem arguments_prefix_append (depth : Nat) (a b : Text) :
    arguments depth a <+: arguments depth (a ++ b) := by
  cases h : openAfter depth a with
  | none => exact ⟨[], by rw [arguments_append_of_closed h, List.append_nil]⟩
  | some left =>
    rw [arguments_append_of_open h, arguments_of_open h]
    exact List.prefix_append _ _

/-! ## Colours -/

theorem colorOf?_eq_some_iff {word text color : Text} :
    colorOf? word text = some color ↔
      ∃ taken inside rest, text = taken ++ (inside ++ ')' :: rest) ∧ taken.map foldCase = word ∧
        (∀ c ∈ inside, isParen c = false) ∧ color = taken ++ inside ++ [')'] := by
  have htake : ∀ taken rest : Text, taken.map foldCase = word → (taken ++ rest).take word.length = taken := by
    rintro taken rest rfl
    rw [List.length_map, List.take_left]
  unfold colorOf?
  rw [Option.bind_eq_some_iff]
  constructor
  · rintro ⟨after, hafter, hcolor⟩
    obtain ⟨taken, rfl, htaken⟩ := afterWord?_eq_some_iff.1 hafter
    split at hcolor
    · rename_i rest hrest
      obtain ⟨-, hsplit⟩ := dropWhile_eq_cons hrest
      have hinside : ∀ c ∈ after.takeWhile (!isParen ·), isParen c = false := by
        intro c hc
        simpa using List.all_eq_true.1 (List.all_takeWhile (p := (!isParen ·)) (l := after)) c hc
      rw [htake taken after htaken] at hcolor
      exact ⟨taken, _, rest, congrArg (taken ++ ·) hsplit, htaken, hinside, (Option.some.inj hcolor).symm⟩
    · cases hcolor
  · rintro ⟨taken, inside, rest, rfl, htaken, hinside, rfl⟩
    have hplain : ∀ c ∈ inside, (!isParen c) = true := by
      intro c hc
      rw [hinside c hc]
      rfl
    have hstop : (!isParen ')') = false := rfl
    refine ⟨inside ++ ')' :: rest, afterWord?_eq_some_iff.2 ⟨taken, rfl, htaken⟩, ?_⟩
    rw [dropWhile_append_cons hplain hstop, takeWhile_append_cons hplain hstop, htake taken _ htaken]
    rfl

theorem colorOf?_append {word text color : Text} (h : colorOf? word text = some color) (more : Text) :
    colorOf? word (text ++ more) = some color := by
  obtain ⟨taken, inside, rest, rfl, hword, hinside, hcolor⟩ := colorOf?_eq_some_iff.1 h
  refine colorOf?_eq_some_iff.2 ⟨taken, inside, rest ++ more, ?_, hword, hinside, hcolor⟩
  simp only [List.append_assoc, List.cons_append]

/-- The two words for a colour do not start the same text. -/
theorem colorAt?_eq_some_iff {text color : Text} :
    colorAt? text = some color ↔
      colorOf? "rgb(".toList text = some color ∨ colorOf? "rgba(".toList text = some color := by
  have hfirst : colorOf? "rgba(".toList text = some color → colorOf? "rgb(".toList text = none := by
    intro h
    obtain ⟨after, hafter, -⟩ := Option.bind_eq_some_iff.1 h
    rw [colorOf?, afterWord?_eq_none hafter (by decide) (by decide), Option.bind_none]
  rw [colorAt?, Option.or_eq_some_iff, and_iff_right_of_imp hfirst]

theorem colorAt?_append {text color : Text} (h : colorAt? text = some color) (more : Text) :
    colorAt? (text ++ more) = some color :=
  colorAt?_eq_some_iff.2 <|
    (colorAt?_eq_some_iff.1 h).imp (colorOf?_append · more) (colorOf?_append · more)

theorem mem_colors_iff {text color : Text} :
    color ∈ colors text ↔ ∃ before rest, text = before ++ rest ∧ colorAt? rest = some color := by
  induction text with
  | nil =>
    constructor
    · intro h
      cases h
    · rintro ⟨before, rest, htext, hcolor⟩
      rw [(List.append_eq_nil_iff.1 htext.symm).2] at hcolor
      cases hcolor
  | cons c text ih =>
    rw [colors, List.mem_append, Option.mem_toList, ih]
    constructor
    · rintro (h | ⟨before, rest, rfl, hcolor⟩)
      · exact ⟨[], _, rfl, h⟩
      · exact ⟨c :: before, rest, rfl, hcolor⟩
    · rintro ⟨before, rest, htext, hcolor⟩
      cases before with
      | nil => exact .inl (htext ▸ hcolor)
      | cons b before =>
        obtain ⟨-, rfl⟩ := List.cons.inj htext
        exact .inr ⟨before, rest, rfl, hcolor⟩

/-- A text that holds another holds its colours. -/
theorem colors_subset_of_isInfix {a b : Text} (h : a <:+: b) : colors a ⊆ colors b := by
  obtain ⟨left, right, rfl⟩ := h
  intro color hcolor
  obtain ⟨before, rest, rfl, hat⟩ := mem_colors_iff.1 hcolor
  refine mem_colors_iff.2 ⟨left ++ before, rest ++ right, ?_, colorAt?_append hat right⟩
  simp only [List.append_assoc]

/-! ## Joined values -/

/-- The colours in the arguments of all calls, repeats included. -/
def argumentColors (text : Text) : List Text := (calls text).flatMap fun call => colors (arguments 0 call.2)

theorem use_colors (text : Text) : (use text).colors = (argumentColors text).eraseDups := rfl

theorem argumentColors_join (value rest : Text) :
    argumentColors (value ++ [',', '\n'] ++ rest) =
      ((calls value).flatMap fun call => colors (arguments 0 (call.2 ++ [',', '\n'] ++ rest))) ++
        argumentColors rest := by
  rw [argumentColors, calls_join, List.flatMap_append, List.flatMap_map]
  rfl

theorem argumentColors_join_of_closed {value : Text} (h : ClosesCalls value) (rest : Text) :
    argumentColors (value ++ [',', '\n'] ++ rest) = argumentColors value ++ argumentColors rest := by
  rw [argumentColors_join, argumentColors]
  congr 1
  refine List.flatMap_congr fun call hcall => ?_
  rw [List.append_assoc, arguments_append_of_closed (h call hcall)]

/-- Whether or not calls are closed, no colour is lost. -/
theorem argumentColors_join_subset (value rest : Text) :
    argumentColors value ++ argumentColors rest ⊆ argumentColors (value ++ [',', '\n'] ++ rest) := by
  rw [argumentColors_join]
  refine List.append_subset.2 ⟨?_, List.subset_append_right _ _⟩
  refine List.Subset.trans ?_ (List.subset_append_left _ _)
  intro color hcolor
  obtain ⟨call, hcall, hmem⟩ := List.mem_flatMap.1 hcolor
  refine List.mem_flatMap.2 ⟨call, hcall, colors_subset_of_isInfix ?_ hmem⟩
  rw [List.append_assoc]
  exact (arguments_prefix_append 0 call.2 _).isInfix

theorem vendorPrefixed_join (value rest : Text) :
    (use (value ++ [',', '\n'] ++ rest)).vendorPrefixed =
      ((use value).vendorPrefixed || (use rest).vendorPrefixed) := by
  show (calls _).any Prod.fst = ((calls value).any Prod.fst || (calls rest).any Prod.fst)
  rw [calls_join, List.any_append, List.any_map]
  rfl

/-- One text of several values, a comma and a line feed between any two. -/
def join (values : List Text) : Text := List.intercalate [',', '\n'] values

theorem join_cons_cons (value next : Text) (values : List Text) :
    join (value :: next :: values) = value ++ [',', '\n'] ++ join (next :: values) :=
  List.intercalate_cons_cons

theorem vendorPrefixed_join_values (values : List Text) :
    (use (join values)).vendorPrefixed = values.any fun value => (use value).vendorPrefixed := by
  induction values with
  | nil => rfl
  | cons value values ih =>
    cases values with
    | nil =>
      rw [join, List.intercalate_singleton, List.any_cons, List.any_nil, Bool.or_false]
    | cons next values =>
      rw [join_cons_cons, vendorPrefixed_join, ih]
      rfl

theorem argumentColors_subset_join_values (values : List Text) :
    values.flatMap argumentColors ⊆ argumentColors (join values) := by
  induction values with
  | nil => exact List.nil_subset _
  | cons value values ih =>
    cases values with
    | nil =>
      rw [join, List.intercalate_singleton, List.flatMap_singleton]
      exact List.Subset.refl _
    | cons next values =>
      rw [join_cons_cons, List.flatMap_cons]
      refine List.Subset.trans ?_ (argumentColors_join_subset _ _)
      exact List.append_subset.2
        ⟨List.subset_append_left _ _, List.Subset.trans ih (List.subset_append_right _ _)⟩

theorem argumentColors_join_values {values : List Text} (h : ∀ value ∈ values.dropLast, ClosesCalls value) :
    argumentColors (join values) = values.flatMap argumentColors := by
  induction values with
  | nil => rfl
  | cons value values ih =>
    cases values with
    | nil => rw [join, List.intercalate_singleton, List.flatMap_singleton]
    | cons next values =>
      rw [List.dropLast_cons_cons] at h
      obtain ⟨hvalue, hvalues⟩ := List.forall_mem_cons.1 h
      rw [join_cons_cons, argumentColors_join_of_closed hvalue, ih hvalues]
      rfl

/-! ## Values that leave a call open -/

/-- The colour of so many zeros. -/
def zeros (count : Nat) : Text := "rgb(".toList ++ (List.replicate count '0' ++ [')'])

/-- A gradient without colours, and after it a colour outside of gradients. -/
def strayColor (count : Nat) : Text := "linear-gradient()".toList ++ [',', '\n'] ++ zeros count

theorem isParen_of_mem_replicate {count : Nat} : ∀ c ∈ List.replicate count '0', isParen c = false := by
  intro c hc
  rw [(List.mem_replicate.1 hc).2]
  rfl

theorem colorAt?_zeros (count : Nat) : colorAt? (zeros count) = some (zeros count) :=
  colorAt?_eq_some_iff.2 <| .inl <| colorOf?_eq_some_iff.2
    ⟨"rgb(".toList, List.replicate count '0', [], rfl, rfl, isParen_of_mem_replicate,
      (List.append_assoc _ _ _).symm⟩

theorem calls_zeros (count : Nat) : calls (zeros count) = [] := by
  have hdigits : ∀ n, calls (List.replicate n '0' ++ [')']) = [] := by
    intro n
    induction n with
    | zero => rfl
    | succ n ih => exact ih
  exact hdigits count

theorem isGradient_strayColor (count : Nat) : isGradient (strayColor count) = true := by
  have hname : (strayColor count).lower =
      "linear-gradient(".toList ++ (')' :: ',' :: '\n' :: (zeros count).lower) := by
    unfold strayColor
    simp [lower]
  have hinfix : "linear-gradient(".toList <:+: (strayColor count).lower :=
    hname ▸ (List.prefix_append _ _).isInfix
  unfold isGradient
  exact Bool.or_eq_true _ _ ▸ .inl (contains_iff_isInfix.2 hinfix)

theorem argumentColors_strayColor (count : Nat) : argumentColors (strayColor count) = [] := by
  have hcalls : calls "linear-gradient()".toList = [(false, [')'])] := by decide
  unfold strayColor
  rw [argumentColors_join, argumentColors, calls_zeros, hcalls]
  rfl

theorem openAfter_strayColor (depth count : Nat) :
    openAfter depth ([',', '\n'] ++ strayColor count) = some depth := by
  have hshape : [',', '\n'] ++ strayColor count = ",\nlinear-gradient".toList ++
      '(' :: ([] ++ ')' :: (",\nrgb".toList ++ '(' :: (List.replicate count '0' ++ [')']))) := by
    unfold strayColor zeros
    simp
  have hname : ∀ c ∈ ",\nlinear-gradient".toList, isParen c = false := by simp [isParen]
  have hcolor : ∀ c ∈ ",\nrgb".toList, isParen c = false := by simp [isParen]
  rw [hshape, openAfter_append, openAfter_of_no_paren hname, Option.bind_some,
    openAfter_pair (List.forall_mem_nil _), openAfter_append, openAfter_of_no_paren hcolor,
    Option.bind_some, openAfter_pair isParen_of_mem_replicate, openAfter]

/-- Where a call is left open, the colour is taken for one of its arguments. -/
theorem mem_argumentColors_join_strayColor {value : Text} (h : ¬ ClosesCalls value) (count : Nat) :
    zeros count ∈ argumentColors (value ++ [',', '\n'] ++ strayColor count) := by
  have hopen : ∃ call ∈ calls value, openAfter 0 call.2 ≠ none := by
    by_contra hnone
    exact h fun call hcall => by_contra fun hne => hnone ⟨call, hcall, hne⟩
  obtain ⟨call, hcall, hsome⟩ := hopen
  obtain ⟨left, hleft⟩ := Option.ne_none_iff_exists'.1 hsome
  have harguments : arguments 0 (call.2 ++ [',', '\n'] ++ strayColor count) =
      call.2 ++ ([',', '\n'] ++ strayColor count) := by
    rw [List.append_assoc, arguments_append_of_open hleft, arguments_of_open (openAfter_strayColor left count)]
  rw [argumentColors_join]
  refine List.mem_append_left _ (List.mem_flatMap.2 ⟨call, hcall, ?_⟩)
  rw [harguments]
  refine mem_colors_iff.2 ⟨call.2 ++ ([',', '\n'] ++ ("linear-gradient()".toList ++ [',', '\n'])), _, ?_,
    colorAt?_zeros count⟩
  unfold strayColor
  simp only [List.append_assoc]

/-- The values that close their calls are those that may have any other gradient value behind them. -/
theorem closesCalls_iff (value : Text) :
    ClosesCalls value ↔
      ∀ next, isGradient next = true →
        (use (join [value, next])).colors = ([value, next].flatMap fun v => (use v).colors).eraseDups := by
  have hunion : ∀ next, ([value, next].flatMap fun v => (use v).colors).eraseDups =
      (argumentColors value ++ argumentColors next).eraseDups := by
    intro next
    rw [← List.append_nil (argumentColors next)]
    exact eraseDups_flatMap_eraseDups argumentColors [value, next]
  constructor
  · intro h next _
    rw [hunion, use_colors, join_cons_cons, argumentColors_join_of_closed h, join, List.intercalate_singleton]
  · intro h
    by_contra hopen
    -- A colour longer than all colours of the value together is none of them.
    let count := (argumentColors value).flatten.length
    have hcolors := h (strayColor count) (isGradient_strayColor count)
    have hmem : zeros count ∈ (use (join [value, strayColor count])).colors := by
      rw [use_colors, List.mem_eraseDups, join_cons_cons, join, List.intercalate_singleton]
      exact mem_argumentColors_join_strayColor hopen count
    rw [hcolors, hunion, List.mem_eraseDups, argumentColors_strayColor, List.append_nil] at hmem
    have hlength := (List.sublist_flatten_of_mem hmem).length_le
    unfold zeros at hlength
    rw [List.length_append, List.length_append, List.length_replicate, List.length_singleton] at hlength
    omega

end CssSurvey.Gradient
