import Microclimate.Proofs.ByChance

/-!
# Bands of weather

The state that observers see is read off the intensity, which is compared with one threshold after
the other. One expects weather that gets more intense to be told as more severe. Whether it is
depends on the order of the comparisons and on a table of nine states, where a single entry in the
wrong place would be noticed in one band of one kind only.

So the bands are written down here once more, **by the names of their states**: which states a kind
of weather has, in which order, and between which two thresholds each of them is seen. The
bands take in all numbers and the infinities; what is not a number is told as the most severe state
that the kind has. That more intense weather is never told as milder then follows from the order of
the bands alone.

* `Microclimate.Band`, `Microclimate.WeatherKind.bands` – the bands of a kind, the mildest first;
* `Microclimate.WeatherKind.bands_ascend` – each band lies below all those after it;
* `Microclimate.WeatherKind.shows_iff` – a state is seen in its own band, and nowhere else;
* `Microclimate.classify_rises` – **the state follows the bands, and rises with the intensity**.
-/

namespace Microclimate

/-! ### Bands -/

/-- A band of weather: a state by its name, and where the intensities lie at which it is seen. -/
structure Band where
  /-- The name of the state. -/
  name : String
  /-- Where the intensities lie. -/
  range : Set Line

namespace Band

/-- The bands of weather that is light, medium or heavy, unless there is little of it. -/
def graded (noun : String) : List Band :=
  [⟨"FINE", Set.Iio (place 0.27)⟩,
   ⟨"LIGHT_" ++ noun, Set.Ico (place 0.27) (place 0.40)⟩,
   ⟨"MEDIUM_" ++ noun, Set.Ico (place 0.40) (place 0.70)⟩,
   ⟨"HEAVY_" ++ noun, Set.Ici (place 0.70)⟩]

/-- The bands of weather with a single state, unless there is little of it. -/
def single (name : String) : List Band :=
  [⟨"FINE", Set.Iio (place 0.27)⟩, ⟨name, Set.Ici (place 0.27)⟩]

/-- The only band of weather that is always fine. -/
def clear : List Band := [⟨"FINE", Set.univ⟩]

/-- A state is the one that a band shows. -/
def Shows (b : Band) (s : WeatherState) : Prop := s.name? = some b.name

instance (b : Band) : DecidablePred b.Shows := fun _ => inferInstanceAs (Decidable (_ = _))

/-- **A band lies below another one**: all of its intensities are less, and it shows another
state. -/
structure Below (b c : Band) : Prop where
  name : b.name ≠ c.name
  range : ∀ p ∈ b.range, ∀ q ∈ c.range, p < q

theorem Below.not_shows {b c : Band} (h : b.Below c) {s : WeatherState} (shown : b.Shows s) :
    ¬c.Shows s := fun other => h.name (Option.some.inj (shown.symm.trans other))

theorem Below.not_mem {b c : Band} (h : b.Below c) {p : Line} (mem : p ∈ b.range) : p ∉ c.range :=
  fun other => lt_irrefl p (h.range p mem p other)

theorem graded_ascend (noun : String) : (graded noun).Pairwise Below := by
  have names : (graded noun).Pairwise (·.name ≠ ·.name) := by
    simp [graded, ← String.toList_inj]
  have low : place 0.27 < place 0.40 := place_lt_place (by decide)
  have high : place 0.40 < place 0.70 := place_lt_place (by decide)
  have ranges : (graded noun).Pairwise fun b c => ∀ p ∈ b.range, ∀ q ∈ c.range, p < q := by
    simp only [graded, List.pairwise_cons, List.forall_mem_cons]
    grind
  exact (names.and ranges).imp fun h => ⟨h.1, h.2⟩

theorem single_ascend {name : String} (ne : "FINE" ≠ name) : (single name).Pairwise Below :=
  List.pairwise_pair.2 ⟨ne, fun _ less _ enough => less.trans_le enough⟩

end Band

/-- **The bands of the weather of a kind**, the mildest first. Weather of no known kind is always
fine, and no weather is ever foggy. -/
def WeatherKind.bands (kind : WeatherKind) : List Band :=
  match kind.name? with
  | some "RAIN" => Band.graded "RAIN"
  | some "SNOW" => Band.graded "SNOW"
  | some "STORM" => Band.graded "SANDSTORM"
  | some "THUNDERS" => Band.single "THUNDERS"
  | some "BLACKRAIN" => Band.single "BLACKRAIN"
  | _ => Band.clear

/-- How severe a state is for weather of a kind: the number of bands before the one that shows it. A
state that no band shows is above all of them. -/
def WeatherKind.severity (kind : WeatherKind) (s : WeatherState) : Nat :=
  kind.bands.findIdx fun b => b.Shows s

/-! ### Comparing with the thresholds -/

section Thresholds

variable {x : Float}

/-- Weather of a family is told by three thresholds. -/
theorem Band.graded_shows {noun : String} {f : Family}
    (light : (f.state .light).name? = some ("LIGHT_" ++ noun))
    (medium : (f.state .medium).name? = some ("MEDIUM_" ++ noun))
    (heavy : (f.state .heavy).name? = some ("HEAVY_" ++ noun)) :
    ∃ b ∈ graded noun, b.Shows (classify f.kind x) ∧ (IsNumber x → place x ∈ b.range) := by
  rw [classify_family]
  split
  next little => exact ⟨_, .head _, rfl, fun _ => place_lt_place little⟩
  next seen =>
  rw [Severity.ofIntensity]
  split
  next less =>
    refine ⟨_, .tail _ (.head _), light, fun number => ⟨?_, place_lt_place less⟩⟩
    exact place_le_place ((number.not_lt_iff_le (by decide)).1 seen)
  next more =>
  split
  next less =>
    refine ⟨_, .tail _ (.tail _ (.head _)), medium, fun number => ⟨?_, place_lt_place less⟩⟩
    exact place_le_place ((number.not_lt_iff_le (by decide)).1 more)
  next most =>
    refine ⟨_, .tail _ (.tail _ (.tail _ (.head _))), heavy, fun number => ?_⟩
    exact place_le_place ((number.not_lt_iff_le (by decide)).1 most)

/-- Weather with a single state is told by one threshold. -/
theorem Band.single_shows {name : String} {s : WeatherState} (named : s.name? = some name) :
    ∃ b ∈ single name, b.Shows (if x < fineBelow then .fine else s) ∧
      (IsNumber x → place x ∈ b.range) := by
  split
  next little => exact ⟨_, .head _, rfl, fun _ => place_lt_place little⟩
  next seen =>
    refine ⟨_, .tail _ (.head _), named, fun number => ?_⟩
    exact place_le_place ((number.not_lt_iff_le (by decide)).1 seen)

end Thresholds

namespace WeatherKind

variable {kind : WeatherKind}

/-- Fine weather and weather of no known kind have one band only. -/
theorem bands_of_other (family : Family.ofKind? kind = none) (thunders : kind ≠ .thunders)
    (blackrain : kind ≠ .blackrain) : kind.bands = Band.clear := by
  by_cases fine : kind = .fine
  · rw [fine]
    rfl
  have unknown : kind.name? = none := by
    rw [Family.ofKind?, List.find?_eq_none] at family
    rw [name?, Option.map_eq_none_iff, List.find?_eq_none]
    simp_all [named, Family.all, Family.kind, eq_comm]
  rw [bands, unknown]

variable (kind)

/-- **The state that is seen is that of a band of the kind**, the one in which the intensity
lies. -/
theorem exists_shows (x : Float) :
    ∃ b ∈ kind.bands, b.Shows (classify kind x) ∧ (IsNumber x → place x ∈ b.range) := by
  by_cases thunders : kind = .thunders
  · rw [thunders]
    exact Band.single_shows rfl
  by_cases blackrain : kind = .blackrain
  · rw [blackrain]
    exact Band.single_shows rfl
  cases family : Family.ofKind? kind with
  | some f =>
    obtain rfl : f.kind = kind := by simpa using List.find?_some family
    cases f with
    | rain => exact Band.graded_shows rfl rfl rfl
    | snow => exact Band.graded_shows rfl rfl rfl
    | storm => exact Band.graded_shows rfl rfl rfl
  | none =>
    rw [bands_of_other family thunders blackrain, classify, if_neg blackrain, if_neg thunders,
      family, ite_self]
    exact ⟨_, .head _, rfl, fun _ => trivial⟩

/-! ### The order of the bands -/

/-- **Each band of a kind lies below all those after it.** -/
theorem bands_ascend : kind.bands.Pairwise Band.Below := by
  rw [bands]
  split
  iterate 3 exact Band.graded_ascend _
  iterate 2 exact Band.single_ascend (by decide)
  exact List.pairwise_singleton _ _

variable {kind}

theorem below_of_lt {i j : Nat} (h : i < j) (hj : j < kind.bands.length) :
    (kind.bands[i]).Below kind.bands[j] :=
  List.pairwise_iff_getElem.1 kind.bands_ascend i j (h.trans hj) hj h

theorem eq_or_below {b c : Band} (hb : b ∈ kind.bands) (hc : c ∈ kind.bands) :
    b = c ∨ b.Below c ∨ c.Below b := by
  obtain ⟨i, hi, rfl⟩ := List.getElem_of_mem hb
  obtain ⟨j, hj, rfl⟩ := List.getElem_of_mem hc
  rcases lt_trichotomy i j with before | rfl | after
  · exact .inr (.inl (below_of_lt before hj))
  · exact .inl rfl
  · exact .inr (.inr (below_of_lt after hi))

/-- **A state is seen in its own band, and nowhere else.** -/
theorem shows_iff {b : Band} (hb : b ∈ kind.bands) {x : Float} (number : IsNumber x) :
    b.Shows (classify kind x) ↔ place x ∈ b.range := by
  obtain ⟨c, hc, shown, lies⟩ := kind.exists_shows x
  rcases eq_or_below hb hc with rfl | below | above
  · exact iff_of_true shown (lies number)
  · exact iff_of_false (fun other => below.not_shows other shown) fun other =>
      below.not_mem other (lies number)
  · exact iff_of_false (above.not_shows shown) (above.not_mem (lies number))

theorem severity_eq {s : WeatherState} {i : Nat} (h : i < kind.bands.length)
    (shown : kind.bands[i].Shows s) : kind.severity s = i := by
  refine (List.findIdx_eq h).2
    ⟨decide_eq_true shown, fun j before => decide_eq_false fun other => ?_⟩
  exact (below_of_lt before h).not_shows other shown

end WeatherKind

/-- **The state follows the bands, and rises with the intensity.** Whatever the intensity, the state
is one of the kind's own. Each state of the kind is seen at the intensities of its band, and at no
others. And of two intensities the greater one never makes the milder state. -/
theorem classify_rises (kind : WeatherKind) :
    (∀ x, ∃ b ∈ kind.bands, b.Shows (classify kind x)) ∧
      (∀ b ∈ kind.bands, ∀ x, IsNumber x → (b.Shows (classify kind x) ↔ place x ∈ b.range)) ∧
      ∀ x y, x ≤ y → kind.severity (classify kind x) ≤ kind.severity (classify kind y) := by
  refine ⟨fun x => ?_, fun b hb x number => WeatherKind.shows_iff hb number, fun x y le => ?_⟩
  · obtain ⟨b, hb, shown, -⟩ := kind.exists_shows x
    exact ⟨b, hb, shown⟩
  · obtain ⟨hx, hy⟩ := isNumber_of_le le
    obtain ⟨b, hb, shown, lies⟩ := kind.exists_shows x
    obtain ⟨i, hi, rfl⟩ := List.getElem_of_mem hb
    obtain ⟨c, hc, shown', lies'⟩ := kind.exists_shows y
    obtain ⟨j, hj, rfl⟩ := List.getElem_of_mem hc
    rw [WeatherKind.severity_eq hi shown, WeatherKind.severity_eq hj shown']
    by_contra! crossed
    have lower := (WeatherKind.below_of_lt crossed hi).range _ (lies' hy) _ (lies hx)
    exact absurd (place_le_place le) (not_le.2 lower)

/-- A sandstorm at the lower ends of two of its bands. -/
theorem classify_rises_storm :
    (⟨"MEDIUM_SANDSTORM", Set.Ico (place 0.40) (place 0.70)⟩ ∈ WeatherKind.storm.bands ∧
        IsNumber 0.40 ∧ (0.40 : Float) ≤ 0.70) ∧
      (classify .storm 0.40).name? = some "MEDIUM_SANDSTORM" ∧
      WeatherKind.storm.severity (classify .storm 0.40) ≤
        WeatherKind.storm.severity (classify .storm 0.70) := by
  have medium : ⟨"MEDIUM_SANDSTORM", Set.Ico (place 0.40) (place 0.70)⟩ ∈ WeatherKind.storm.bands :=
    .tail _ (.tail _ (.head _))
  have number : IsNumber 0.40 := by decide
  have le : (0.40 : Float) ≤ 0.70 := by decide
  obtain ⟨-, seen, rises⟩ := classify_rises .storm
  have least : place 0.40 ∈ Set.Ico (place 0.40) (place 0.70) :=
    ⟨le_rfl, place_lt_place (by decide)⟩
  exact ⟨⟨medium, number, le⟩, (seen _ medium _ number).2 least, rises _ _ le⟩

end Microclimate
