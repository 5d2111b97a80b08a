/-
What the gradient calls of a text show. The arguments of a call run to the parenthesis that closes it, and
the colours in them do not start inside one another. So a text has the colours that stand in the arguments
of its calls, each call counted at its name, whether every place is looked at or a search goes on behind
each call and each colour that it finds; and a text without calls has none.
-/
import CssSurvey.Proofs.Brace
import CssSurvey.Proofs.Gradient.Calls

namespace CssSurvey.Gradient

open Text

/-! ## Arguments -/

/-- The arguments of a call, in what follows its opening parenthesis. Nowhere in them more parentheses have
been closed than opened, and they end where the text ends, or where one more is closed. -/
structure IsArguments (args rest : Text) : Prop where
  opened : ∀ front, front <+: args → front.count ')' ≤ front.count '('
  ends : args = rest ∨ args.count ')' = args.count '(' ∧ ∃ after, rest = args ++ ')' :: after

theorem arguments_eq_enclosed (depth : Nat) (rest : Text) : arguments depth rest = enclosed '(' ')' depth rest := by
  induction rest generalizing depth with
  | nil => rfl
  | cons c rest ih =>
    rw [arguments, enclosed]
    split
    · rfl
    · exact congrArg (c :: ·) (ih _)

/-- With `depth` parentheses open, as many more may be closed before the one of the call. -/
theorem arguments_spec (depth : Nat) (rest : Text) :
    (∀ front, front <+: arguments depth rest → front.count ')' ≤ depth + front.count '(') ∧
      (arguments depth rest = rest ∨
        (arguments depth rest).count ')' = depth + (arguments depth rest).count '(' ∧
          ∃ after, rest = arguments depth rest ++ ')' :: after) := by
  rw [arguments_eq_enclosed]
  exact enclosed_spec (by decide) depth rest

theorem IsArguments.within {args rest : Text} (h : IsArguments args rest) : args <+: rest := by
  rcases h.ends with rfl | ⟨-, after, rfl⟩
  · exact List.prefix_refl _
  · exact List.prefix_append _ _

/-- Of two texts that both are the arguments of one call neither is the start of a longer other. -/
theorem IsArguments.eq_of_start {args other rest : Text} (h : IsArguments args rest)
    (hother : IsArguments other rest) (hstart : args <+: other) : args = other := by
  have hwithin := hother.within
  rcases h.ends with rfl | ⟨hbalanced, after, rfl⟩
  · exact hstart.eq_of_length_le hwithin.length_le
  · obtain ⟨more, rfl⟩ := hstart
    cases more with
    | nil => exact (List.append_nil _).symm
    | cons c more =>
      -- The longer arguments would hold the parenthesis that closes the call.
      obtain ⟨rfl, -⟩ := List.cons_prefix_cons.1 ((List.prefix_append_right_inj args).1 hwithin)
      have hclosed := hother.opened (args ++ [')']) ((List.prefix_append_right_inj args).2 ⟨more, rfl⟩)
      rw [List.count_append, List.count_append, List.count_singleton_self, hbalanced] at hclosed
      have hnone : [')'].count '(' = 0 := rfl
      omega

theorem arguments_eq_iff {rest args : Text} : arguments 0 rest = args ↔ IsArguments args rest := by
  have hspec := arguments_spec 0 rest
  simp only [Nat.zero_add] at hspec
  have hargs : IsArguments (arguments 0 rest) rest := ⟨hspec.1, hspec.2⟩
  constructor
  · rintro rfl
    exact hargs
  · intro h
    rcases List.prefix_or_prefix_of_prefix hargs.within h.within with hstart | hstart
    · exact hargs.eq_of_start h hstart
    · exact (h.eq_of_start hargs hstart).symm

/-! ## Colours -/

/-- The name of a colour with its opening parenthesis, in any case. -/
def IsColorName (name : Text) : Prop := name.lower ∈ ["rgb(".toList, "rgba(".toList]

/-- A colour: its name, anything but parentheses, and a closing parenthesis. -/
def IsColor (color : Text) : Prop :=
  ∃ name inside, color = name ++ inside ++ [')'] ∧ IsColorName name ∧ ∀ c ∈ inside, isParen c = false

theorem IsColorName.exists_stem {name : Text} (h : IsColorName name) :
    ∃ stem, name = stem ++ ['('] ∧ ∀ c ∈ stem, isParen c = false := by
  have hword : ∃ word, name.lower = word ++ ['('] ∧ '(' ∉ word ∧ ')' ∉ word := by
    rcases List.mem_pair.1 h with hname | hname
    · exact ⟨"rgb".toList, hname, by decide, by decide⟩
    · exact ⟨"rgba".toList, hname, by decide, by decide⟩
  obtain ⟨word, hname, hopen, hclose⟩ := hword
  obtain ⟨stem, rfl, rfl⟩ := (lower_eq_append_singleton_iff (by decide)).1 hname
  rw [mem_lower_iff (by decide)] at hopen hclose
  refine ⟨stem, rfl, fun c hc => ?_⟩
  have hparen : c ≠ '(' ∧ c ≠ ')' := ⟨ne_of_mem_of_not_mem hc hopen, ne_of_mem_of_not_mem hc hclose⟩
  simpa [isParen] using hparen

/-- A name of a colour does not end in another. -/
theorem IsColorName.eq_of_suffix {name other : Text} (h : IsColorName name) (hother : IsColorName other)
    (hsuffix : other <:+ name) : other = name := by
  have hwords : ∀ word ∈ ["rgb(".toList, "rgba(".toList], ∀ short ∈ ["rgb(".toList, "rgba(".toList],
      short <:+ word → short = word := by decide
  have hlower := hwords _ h _ hother (hsuffix.map Char.toLower)
  have hlength := congrArg List.length hlower
  simp only [lower, List.length_map] at hlength
  exact hsuffix.eq_of_length hlength

theorem colorAt?_eq_some_iff_exists {text color : Text} :
    colorAt? text = some color ↔
      ∃ name inside rest, text = name ++ (inside ++ ')' :: rest) ∧ IsColorName name ∧
        (∀ c ∈ inside, isParen c = false) ∧ color = name ++ inside ++ [')'] := by
  rw [colorAt?_eq_some_iff, colorOf?_eq_some_iff, colorOf?_eq_some_iff, ← exists_or]
  refine exists_congr fun name => ?_
  rw [IsColorName, List.mem_pair, map_foldCase_eq_iff rfl, map_foldCase_eq_iff rfl]
  constructor
  · rintro (⟨inside, rest, htext, hname, h⟩ | ⟨inside, rest, htext, hname, h⟩)
    · exact ⟨inside, rest, htext, .inl hname, h⟩
    · exact ⟨inside, rest, htext, .inr hname, h⟩
  · rintro ⟨inside, rest, htext, hname | hname, h⟩
    · exact .inl ⟨inside, rest, htext, hname, h⟩
    · exact .inr ⟨inside, rest, htext, hname, h⟩

theorem colorAt?_iff {text color : Text} : colorAt? text = some color ↔ IsColor color ∧ color <+: text := by
  rw [colorAt?_eq_some_iff_exists]
  constructor
  · rintro ⟨name, inside, rest, rfl, hname, hinside, rfl⟩
    exact ⟨⟨name, inside, rfl, hname, hinside⟩, rest, by simp⟩
  · rintro ⟨⟨name, inside, rfl, hname, hinside⟩, rest, rfl⟩
    exact ⟨name, inside, rest, by simp, hname, hinside, rfl⟩

instance : DecidablePred IsColor := fun color =>
  decidable_of_iff (colorAt? color = some color) <| by
    rw [colorAt?_iff]
    exact and_iff_left (List.prefix_refl color)

theorem prefixFree_isColor : PrefixFree IsColor := by
  intro color other hcolor hother hstart
  have hfirst := colorAt?_iff.2 ⟨hcolor, hstart⟩
  rw [colorAt?_iff.2 ⟨hother, List.prefix_refl other⟩] at hfirst
  exact (Option.some.inj hfirst).symm

/-- Colours as they are searched for. -/
def colorReader : Reader Text where
  read text := (colorAt? text).map fun color => (color, text.drop color.length)
  exists_taken h := by
    obtain ⟨color, hcolor, hpair⟩ := Option.map_eq_some_iff.1 h
    obtain ⟨rfl, rfl⟩ := Prod.mk.inj hpair
    obtain ⟨⟨name, inside, rfl, -⟩, rest, rfl⟩ := colorAt?_iff.1 hcolor
    exact ⟨name ++ inside ++ [')'], by simp, by rw [List.drop_left]⟩

theorem colorReader_read_iff {text color rest : Text} :
    colorReader.read text = some (color, rest) ↔ text = color ++ rest ∧ IsColor color := by
  show (colorAt? text).map _ = some (color, rest) ↔ _
  rw [Option.map_eq_some_iff]
  constructor
  · rintro ⟨_, hcolor, hpair⟩
    obtain ⟨rfl, rfl⟩ := Prod.mk.inj hpair
    obtain ⟨his, rest, rfl⟩ := colorAt?_iff.1 hcolor
    rw [List.drop_left]
    exact ⟨rfl, his⟩
  · rintro ⟨rfl, his⟩
    exact ⟨color, colorAt?_iff.2 ⟨his, List.prefix_append _ _⟩, by rw [List.drop_left]⟩

theorem colorReader_all (text : Text) : colorReader.all text = occurrences IsColor text := by
  rw [← List.map_id (occurrences IsColor text), Reader.all]
  refine (map_occurrences prefixFree_isColor (fun text found => ?_) text).symm
  obtain ⟨color, rest⟩ := found
  rw [colorReader_read_iff]
  constructor
  · rintro ⟨htext, his⟩
    exact ⟨color, rest, htext, his, rfl⟩
  · rintro ⟨_, _, htext, his, hpair⟩
    obtain ⟨rfl, rfl⟩ := Prod.mk.inj hpair
    exact ⟨htext, his⟩

theorem colors_eq_occurrences (text : Text) : colors text = (occurrences IsColor text).map Prod.fst := by
  rw [← colorReader_all]
  induction text with
  | nil => rw [colorReader.all_nil]; rfl
  | cons c text ih =>
    rw [colors, ih, colorReader.all_cons, List.map_append]
    show _ = (((colorAt? (c :: text)).map _).toList).map Prod.fst ++ _
    cases colorAt? (c :: text) <;> rfl

/-- The first parenthesis of a colour is that of its name. -/
theorem exists_of_read {text color rest : Text} (h : colorReader.read text = some (color, rest)) :
    ∃ name inside, IsColorName name ∧ (∀ c ∈ inside, isParen c = false) ∧ text = name ++ afterOpen text ∧
      afterOpen text = inside ++ ')' :: rest := by
  obtain ⟨rfl, name, inside, rfl, hname, hinside⟩ := colorReader_read_iff.1 h
  have hafter : afterOpen (name ++ inside ++ [')'] ++ rest) = inside ++ ')' :: rest := by
    obtain ⟨stem, rfl, hstem⟩ := hname.exists_stem
    have hopen : '(' ∉ stem := fun hmem => absurd (hstem _ hmem) (by decide)
    simp only [List.append_assoc, List.singleton_append]
    exact afterOpen_append_open hopen _
  refine ⟨name, inside, hname, hinside, ?_, hafter⟩
  rw [hafter, List.append_assoc, List.append_assoc, List.singleton_append]

theorem IsColorName.append_ne {name front : Text} (h : IsColorName name) (hfront : ∀ c ∈ front, isParen c = false)
    (rest after : Text) : name ++ rest ≠ front ++ ')' :: after := by
  have hplain : ∀ {text : Text}, (∀ c ∈ text, isParen c = false) → ∀ c ∈ text, (!isParen c) = true := by
    intro text htext c hc
    rw [htext c hc]
    rfl
  obtain ⟨stem, rfl, hstem⟩ := h.exists_stem
  intro heq
  have hdrop := congrArg (List.dropWhile (!isParen ·)) heq
  rw [List.append_assoc, List.singleton_append, dropWhile_append_cons (hplain hstem) (by decide),
    dropWhile_append_cons (hplain hfront) (by decide)] at hdrop
  cases hdrop

/-- No colour starts inside another. Where it would start before the first opening parenthesis its name
would end the other's, and behind that there is none up to the closing one. -/
theorem no_color_inside {text tail rest color : Text} (h : colorReader.read text = some (color, rest))
    (htail : tail <:+ text) (hsome : (colorReader.read tail).isSome) : tail = text ∨ tail <:+ rest := by
  obtain ⟨⟨_, later⟩, hother⟩ := Option.isSome_iff_exists.1 hsome
  obtain ⟨name, inside, hname, hinside, htext, hafter⟩ := exists_of_read h
  obtain ⟨other, _, hothername, -, htailtext, -⟩ := exists_of_read hother
  rcases suffix_afterOpen htail with hbehind | hsame
  · right
    rw [hafter] at hbehind
    obtain ⟨before, hsplit⟩ := hbehind
    rcases List.append_eq_append_iff.1 hsplit with ⟨front, hfront, hcut⟩ | ⟨front, -, hcut⟩
    · have hplain : ∀ c ∈ front, isParen c = false := fun c hc =>
        hinside c (hfront ▸ List.mem_append_right before hc)
      exact absurd (htailtext.symm.trans hcut) (hothername.append_ne hplain _ _)
    · cases front with
      | nil =>
        exact absurd (htailtext.symm.trans hcut.symm) (hothername.append_ne (List.forall_mem_nil _) _ _)
      | cons d front => exact ⟨front, (List.cons.inj hcut).2.symm⟩
  · left
    rw [htext, htailtext, hsame] at htail
    have hsuffix := ((List.suffix_append_inj_of_length_eq rfl).1 htail).1
    rw [htext, htailtext, hsame, hname.eq_of_suffix hothername hsuffix]

theorem search_colors (text : Text) : colorReader.search text = occurrences IsColor text := by
  rw [colorReader.search_eq_all no_color_inside, colorReader_all]

/-! ## Use -/

theorem isGradient_iff {text : Text} : isGradient text = true ↔ ∃ before name rest,
    text = before ++ (name ++ rest) ∧ IsCallName name := by
  have hword : ∀ word : Text, contains word text.lower = true ↔
      ∃ before name rest, text = before ++ (name ++ rest) ∧ name.lower = word := by
    intro word
    rw [contains_iff_isInfix, lower, List.infix_map_iff]
    constructor
    · rintro ⟨name, ⟨before, rest, rfl⟩, rfl⟩
      exact ⟨before, name, rest, List.append_assoc _ _ _, rfl⟩
    · rintro ⟨before, name, rest, rfl, rfl⟩
      exact ⟨name, ⟨before, rest, List.append_assoc _ _ _⟩, rfl⟩
  show (contains _ text.lower || contains _ text.lower) = true ↔ _
  rw [Bool.or_eq_true, hword, hword]
  constructor
  · rintro (⟨before, name, rest, htext, hname⟩ | ⟨before, name, rest, htext, hname⟩)
    · exact ⟨before, name, rest, htext, List.mem_pair.2 (.inl hname)⟩
    · exact ⟨before, name, rest, htext, List.mem_pair.2 (.inr hname)⟩
  · rintro ⟨before, name, rest, htext, hname⟩
    exact (List.mem_pair.1 hname).imp (fun h => ⟨before, name, rest, htext, h⟩)
      fun h => ⟨before, name, rest, htext, h⟩

theorem isGradient_eq_false_iff {text : Text} : isGradient text = false ↔ occurrences IsCallName text = [] := by
  rw [← Bool.not_eq_true, isGradient_iff, List.eq_nil_iff_forall_not_mem]
  constructor
  · rintro h ⟨name, rest⟩ hmem
    obtain ⟨hname, before, htext⟩ := mem_occurrences_iff.1 hmem
    exact h ⟨before, name, rest, htext, hname⟩
  · rintro h ⟨before, name, rest, htext, hname⟩
    exact h (name, rest) (mem_occurrences_iff.2 ⟨hname, before, htext⟩)

/-- What a search from left to right shows, for calls and in the arguments of each for colours. -/
def searchUse (text : Text) : GradientUse :=
  let calls := callReader.search text
  ⟨calls.any Prod.fst,
    (calls.flatMap fun call => (colorReader.search (arguments 0 call.2)).map Prod.fst).eraseDups⟩

/-- The colours of calls depend on what follows them, and not on how often the same follows. -/
theorem eraseDups_flatMap_rests {α β : Type} {found : List (α × Text)} {other : List (β × Text)}
    (h : (found.map Prod.snd).eraseDups = (other.map Prod.snd).eraseDups) (f : Text → List Text) :
    (found.flatMap fun call => f call.2).eraseDups = (other.flatMap fun call => f call.2).eraseDups := by
  rw [← List.flatMap_map Prod.snd f, ← List.flatMap_map Prod.snd f, ← eraseDups_flatMap, h, eraseDups_flatMap]

theorem searchUse_eq (text : Text) : searchUse text = use text := by
  have hcolors := eraseDups_flatMap_rests (eraseDups_search_rests text) fun rest => colors (arguments 0 rest)
  simp only [searchUse, use, any_search, search_colors, ← colors_eq_occurrences, hcolors]

theorem use_colors_eq (text : Text) :
    (use text).colors = ((occurrences IsCallName text).flatMap fun call =>
      (occurrences IsColor (arguments 0 call.2)).map Prod.fst).eraseDups := by
  simp only [use_colors, argumentColors, colors_eq_occurrences]
  exact eraseDups_flatMap_rests (eraseDups_rests text) fun rest =>
    (occurrences IsColor (arguments 0 rest)).map Prod.fst

/-- The gradient calls of a text are all found, and nothing else is. A vendor prefix is seen exactly where
the name of a call follows a hyphen, letters and a hyphen. The colours are those in the arguments of every
call, nested ones included, at their first uses; the arguments run to the parenthesis that closes the call,
or to the end of the text. A search from left to right, on behind each call and each colour that it finds,
shows the same. A text without a call is no gradient and shows nothing. -/
theorem use_shows_all_calls (text : Text) :
    ((use text).vendorPrefixed = true ↔
      ∃ before vendor name rest, text = before ++ '-' :: (vendor ++ '-' :: (name ++ rest)) ∧ vendor ≠ [] ∧
        (∀ c ∈ vendor, c.isAlpha = true ∨ c = '\u017f' ∨ c = '\u212a') ∧ IsCallName name) ∧
      (use text).colors = ((occurrences IsCallName text).flatMap fun call =>
        (occurrences IsColor (arguments 0 call.2)).map Prod.fst).eraseDups ∧
      (∀ rest args, arguments 0 rest = args ↔ IsArguments args rest) ∧
      use text = searchUse text ∧
      (isGradient text = false ↔ occurrences IsCallName text = []) ∧
      (isGradient text = false → use text = ⟨false, []⟩) := by
  have hprefixed : (use text).vendorPrefixed = true ↔
      ∃ before vendor name rest, text = before ++ '-' :: (vendor ++ '-' :: (name ++ rest)) ∧ vendor ≠ [] ∧
        (∀ c ∈ vendor, c.isAlpha = true ∨ c = '\u017f' ∨ c = '\u212a') ∧ IsCallName name := by
    simp only [← isLatinLetter_iff]
    exact any_calls_iff
  refine ⟨hprefixed, use_colors_eq text, fun _ _ => arguments_eq_iff, (searchUse_eq text).symm,
    isGradient_eq_false_iff, fun hplain => ?_⟩
  have hnone := isGradient_eq_false_iff.1 hplain
  have hcolors : (use text).colors = [] := by
    rw [use_colors_eq, hnone]
    rfl
  have hflag : (use text).vendorPrefixed = false := by
    rw [← Bool.not_eq_true, hprefixed]
    rintro ⟨before, vendor, name, rest, htext, -, -, hname⟩
    have hmem : (name, rest) ∈ occurrences IsCallName text :=
      mem_occurrences_iff.2 ⟨hname, before ++ '-' :: (vendor ++ ['-']), by rw [htext]; simp⟩
    exact List.ne_nil_of_mem hmem hnone
  rw [← hflag, ← hcolors]

theorem use_shows_all_calls_plain :
    isGradient "rgb(1, 2, 3) -o-linear-gradient (red)".toList = false ∧
      use "rgb(1, 2, 3) -o-linear-gradient (red)".toList = ⟨false, []⟩ :=
  ⟨by decide, (use_shows_all_calls "rgb(1, 2, 3) -o-linear-gradient (red)".toList).2.2.2.2.2 (by decide)⟩

/-- Neither call is closed, and the inner one shows no colour that the outer one does not. -/
example : use "-o-Linear-gradient(rgb(1), radial-gradient(RGBA(2) rgb(1)".toList =
    ⟨true, ["rgb(1)".toList, "RGBA(2)".toList]⟩ := by
  decide

end CssSurvey.Gradient
