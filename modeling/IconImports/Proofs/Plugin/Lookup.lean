import IconImports.Proofs.Plugin.Serve

/-!
# Which names are claimed and which are served

A plugin looks at the first bytes of a name. For a numbered registry this comes to the first
characters: the bytes are the identifier of an entry exactly if the characters are its number
(`openingId?_eq_ofIndex_iff`), since an identifier has as many bytes as characters. So a name is
claimed exactly if its first four characters are the number of an entry (`resolve_eq_some_iff`), and
what is served is the module of that entry, whatever follows (`load_eq_some_iff`).

The main statement: `Reachable.looksUp`.
-/

namespace IconImports

/-- The number with which a module name opens, in as many digits as an identifier has. -/
def openingIndex? (specifier : String) : Option Nat :=
  ModuleId.index? (specifier.toList.take ModuleId.width)

theorem openingIndex?_eq_some_iff {specifier : String} {i : Nat} :
    openingIndex? specifier = some i ↔
      4 ≤ specifier.length ∧ Base36.value? (specifier.toList.take 4) = some i := by
  have length : (specifier.toList.take 4).length = 4 ↔ 4 ≤ specifier.length := by
    rw [List.length_take, String.length_toList]
    omega
  rw [← length, openingIndex?, ModuleId.index?]
  split
  next h => exact ⟨fun hi => ⟨h, hi⟩, And.right⟩
  next h => exact ⟨fun hi => absurd hi.symm (Option.some_ne_none i), fun hi => absurd hi.1 h⟩

theorem mem_digits_of_openingIndex? {specifier : String} {i : Nat}
    (h : openingIndex? specifier = some i) {c : Char} (hc : c ∈ specifier.toList.take 4) :
    c ∈ Base36.digits := by
  have digits : (ModuleId.ofIndex i).text.toList = specifier.toList.take 4 :=
    ModuleId.toList_text_ofIndex_of_index? h
  rw [← digits, ModuleId.toList_text_ofIndex] at hc
  exact Base36.mem_digits_of_mem_numeral hc

/-- The opening bytes of a name are an identifier if its opening characters are the number. -/
theorem openingId?_eq_ofIndex_iff {specifier : String} {i : Nat} (hi : i < ModuleId.capacity) :
    openingId? specifier = some (ModuleId.ofIndex i).text ↔ openingIndex? specifier = some i := by
  have length : (ModuleId.ofIndex i).text.toList.length = ModuleId.width := by
    rw [ModuleId.toList_text_ofIndex, Base36.length_numeral]
  constructor
  · intro h
    obtain ⟨a, rest, rfl, start⟩ := slice?_eq_some_iff.1 h
    obtain rfl : a = "" := String.utf8ByteSize_eq_zero_iff.1 (congrArg Span.start start).symm
    rw [openingIndex?, String.empty_append, String.toList_append, List.take_left' length]
    exact ModuleId.index?_ofIndex hi
  · intro h
    have opening := ModuleId.toList_text_ofIndex_of_index? h
    have split : specifier = (ModuleId.ofIndex i).text ++
        String.ofList (specifier.toList.drop ModuleId.width) := by
      rw [← String.toList_inj, String.toList_append, String.toList_ofList, opening,
        List.take_append_drop]
    rw [split]
    exact openingId?_append (ModuleId.utf8ByteSize_ofIndex i) _

theorem specifier?_eq_some_iff {name specifier : String} :
    specifier? name = some specifier ↔ name = virtualName specifier := by
  rw [specifier?, virtualName, ← String.toList_inj, String.toList_append]
  split
  next h => simp [h]
  next c s h =>
    simp only [h, String.toList_singleton, List.singleton_append, List.cons.injEq]
    split
    next hc => simp [hc, ← String.toList_inj, eq_comm]
    next hc => simp [hc]

theorem virtualName_inj {s t : String} : virtualName s = virtualName t ↔ s = t := by
  constructor
  · intro h
    have same := specifier?_eq_some_iff.2 h
    rw [Plugin.specifier?_virtualName] at same
    exact Option.some.inj same
  · exact congrArg virtualName

namespace Plugin

variable {plugin : Plugin}

/-! ### What a plugin answers -/

/-- All that resolving can do. -/
theorem resolve_cases (plugin : Plugin) (specifier : String) :
    (plugin.resolve specifier = ⟨none, plugin, []⟩ ∧
      ∀ id, openingId? specifier = some id → plugin.registry.contains id = false) ∨
    ∃ id, openingId? specifier = some id ∧ plugin.registry.contains id = true ∧
      plugin.resolve specifier =
        ⟨some (virtualName specifier), plugin, [(Event.resolved specifier id).call]⟩ := by
  unfold resolve
  cases hid : openingId? specifier with
  | none => exact .inl ⟨rfl, nofun⟩
  | some id =>
    cases known : plugin.registry.contains id with
    | false =>
      refine .inl ⟨by simp [known], ?_⟩
      rintro _ ⟨⟩
      exact known
    | true => exact .inr ⟨id, rfl, known, by simp [known]⟩

/-- All that loading can do. -/
theorem load_cases (plugin : Plugin) (name : String) :
    (plugin.load name = ⟨none, plugin, []⟩ ∧ ∀ specifier id, name = virtualName specifier →
      openingId? specifier = some id → plugin.registry.get? id = none) ∨
    ∃ specifier id entry, name = virtualName specifier ∧ openingId? specifier = some id ∧
      plugin.registry.get? id = some entry ∧
      plugin.load name =
        ⟨some entry.moduleSource, plugin, [(Event.loading id entry.imports.length).call]⟩ := by
  unfold load
  cases hid : (specifier? name).bind openingId? with
  | none =>
    refine .inl ⟨rfl, ?_⟩
    rintro specifier id rfl hopening
    simp [hopening] at hid
  | some id =>
    obtain ⟨specifier, hname, hopening⟩ := Option.bind_eq_some_iff.1 hid
    have hname := specifier?_eq_some_iff.1 hname
    cases he : plugin.registry.get? id with
    | none =>
      refine .inl ⟨by simp [he], ?_⟩
      rintro specifier' id' hname' hopening'
      obtain rfl := virtualName_inj.1 (hname.symm.trans hname')
      obtain rfl := Option.some.inj (hopening.symm.trans hopening')
      exact he
    | some entry => exact .inr ⟨specifier, id, entry, hname, hopening, he, by simp [he]⟩

/-- A name is claimed if it opens with the number of an entry. -/
theorem resolve_eq_some_iff (hr : plugin.registry.Numbered) {specifier name : String} :
    (plugin.resolve specifier).answer = some name ↔
      name = virtualName specifier ∧ ∃ i < plugin.registry.size, openingIndex? specifier = some i := by
  obtain ⟨h, unknown⟩ | ⟨id, hid, known, h⟩ := resolve_cases plugin specifier
  · rw [h]
    refine ⟨nofun, ?_⟩
    rintro ⟨-, i, hi, hopening⟩
    have hid := (openingId?_eq_ofIndex_iff (Nat.lt_of_lt_of_le hi hr.size_le)).2 hopening
    have known := hr.contains_iff.2 ⟨i, hi, rfl⟩
    rw [unknown _ hid] at known
    cases known
  · obtain ⟨i, hi, rfl⟩ := hr.contains_iff.1 known
    have hopening := (openingId?_eq_ofIndex_iff (Nat.lt_of_lt_of_le hi hr.size_le)).1 hid
    rw [h, Option.some.injEq, eq_comm]
    exact ⟨fun hname => ⟨hname, i, hi, hopening⟩, And.left⟩

/-- Under a name that opens with the number of an entry, the module of the entry is served. -/
theorem load_eq_some_iff (hr : plugin.registry.Numbered) {name text : String} :
    (plugin.load name).answer = some text ↔
      ∃ specifier, name = virtualName specifier ∧ ∃ i p, openingIndex? specifier = some i ∧
        plugin.registry.toList[i]? = some p ∧ text = p.2.moduleSource := by
  constructor
  · intro htext
    obtain ⟨h, -⟩ | ⟨specifier, id, entry, hname, hid, he, h⟩ := load_cases plugin name
    · rw [h] at htext
      cases htext
    · rw [h] at htext
      obtain ⟨i, rfl, hi⟩ := hr.get?_eq_some_iff.1 he
      have hlt : i < plugin.registry.size := by
        rw [← Registry.length_toList]
        exact (List.getElem?_eq_some_iff.1 hi).1
      have hopening := (openingId?_eq_ofIndex_iff (Nat.lt_of_lt_of_le hlt hr.size_le)).1 hid
      exact ⟨specifier, hname, i, _, hopening, hi, (Option.some.inj htext).symm⟩
  · rintro ⟨specifier, rfl, i, p, hopening, hp, rfl⟩
    have hlt : i < plugin.registry.size := by
      rw [← Registry.length_toList]
      exact (List.getElem?_eq_some_iff.1 hp).1
    have hid := (openingId?_eq_ofIndex_iff (Nat.lt_of_lt_of_le hlt hr.size_le)).2 hopening
    exact (resolve_eq_and_load_eq hid (hr.get?_ofIndex hp)).2

theorem resolve_eq_of_answer_eq_none {specifier : String}
    (h : (plugin.resolve specifier).answer = none) :
    plugin.resolve specifier = ⟨none, plugin, []⟩ := by
  obtain ⟨hnone, -⟩ | ⟨id, -, -, hsome⟩ := resolve_cases plugin specifier
  · exact hnone
  · rw [hsome] at h
    cases h

theorem load_eq_of_answer_eq_none {name : String} (h : (plugin.load name).answer = none) :
    plugin.load name = ⟨none, plugin, []⟩ := by
  obtain ⟨hnone, -⟩ | ⟨_, _, _, -, -, -, hsome⟩ := load_cases plugin name
  · exact hnone
  · rw [hsome] at h
    cases h

theorem resolve_and_load_of_openingIndex?_eq_none (hr : plugin.registry.Numbered)
    {specifier : String} (h : openingIndex? specifier = none) :
    plugin.resolve specifier = ⟨none, plugin, []⟩ ∧
      plugin.load (virtualName specifier) = ⟨none, plugin, []⟩ := by
  constructor
  · apply resolve_eq_of_answer_eq_none
    rw [Option.eq_none_iff_forall_not_mem]
    intro name hname
    obtain ⟨-, i, -, hi⟩ := (resolve_eq_some_iff hr).1 hname
    simp [h] at hi
  · apply load_eq_of_answer_eq_none
    rw [Option.eq_none_iff_forall_not_mem]
    intro text htext
    obtain ⟨_, hname, i, -, hi, -⟩ := (load_eq_some_iff hr).1 htext
    obtain rfl := virtualName_inj.1 hname
    simp [h] at hi

/-! ### The domains -/

theorem openingIndex?_eq_none_of_length_lt {specifier : String} (h : specifier.length < 4) :
    openingIndex? specifier = none := by
  rw [Option.eq_none_iff_forall_not_mem]
  intro i hi
  have := (openingIndex?_eq_some_iff.1 hi).1
  omega

theorem openingIndex?_eq_none_of_utf8Size {specifier : String} {c : Char}
    (hc : c ∈ specifier.toList.take 4) (hsize : 1 < c.utf8Size) : openingIndex? specifier = none := by
  have ascii : Base36.digits.all fun c => c.utf8Size = 1 := by decide
  rw [Option.eq_none_iff_forall_not_mem]
  intro i hi
  have short := List.all_eq_true.1 ascii c (mem_digits_of_openingIndex? hi hc)
  rw [decide_eq_true_iff] at short
  omega

/-- What the names are for which a plugin has an answer. -/
structure LooksUp (plugin : Plugin) : Prop where
  /-- A name is claimed if its first four characters are digits, and their value is that of an entry;
  and it is claimed under its own name behind a mark. -/
  claimed : ∀ s name, (plugin.resolve s).answer = some name ↔ name = "\x00" ++ s ∧ 4 ≤ s.length ∧
    (∀ c ∈ s.toList.take 4, ('0' ≤ c ∧ c ≤ '9') ∨ ('a' ≤ c ∧ c ≤ 'z')) ∧
    ∃ i, Base36.value? (s.toList.take 4) = some i ∧ i < plugin.registry.size
  /-- The names that are served are those under which names are claimed. -/
  served : ∀ name, (∃ text, (plugin.load name).answer = some text) ↔
    ∃ s, name = "\x00" ++ s ∧ (plugin.resolve s).answer = some name
  /-- What is served is the module of the entry with that value. -/
  module : ∀ s text, (plugin.load ("\x00" ++ s)).answer = some text →
    ∃ i p, Base36.value? (s.toList.take 4) = some i ∧ plugin.registry.toList[i]? = some p ∧
      text = p.2.moduleSource
  /-- Nothing but the four characters behind the mark decides what is served. -/
  suffix : ∀ s t, s.toList.take 4 = t.toList.take 4 →
    (plugin.load ("\x00" ++ s)).answer = (plugin.load ("\x00" ++ t)).answer
  /-- No name is claimed twice. -/
  once : ∀ s name, (plugin.resolve s).answer = some name → (plugin.resolve name).answer = none
  short : ∀ s, s.length < 4 → plugin.resolve s = ⟨none, plugin, []⟩ ∧
    plugin.load ("\x00" ++ s) = ⟨none, plugin, []⟩
  multibyte : ∀ s, (∃ c ∈ s.toList.take 4, 1 < c.utf8Size) → plugin.resolve s = ⟨none, plugin, []⟩ ∧
    plugin.load ("\x00" ++ s) = ⟨none, plugin, []⟩

/-- Names are looked up by their first four characters. -/
theorem Reachable.looksUp (h : plugin.Reachable) : LooksUp plugin := by
  have hr := h.numbered
  have mark : ∀ s, virtualName s = "\x00" ++ s := fun s => rfl
  constructor
  case claimed =>
    intro s name
    rw [resolve_eq_some_iff hr, mark]
    constructor
    · rintro ⟨rfl, i, hi, hopening⟩
      obtain ⟨length, value⟩ := openingIndex?_eq_some_iff.1 hopening
      exact ⟨rfl, length, fun c hc =>
        Base36.mem_digits_iff.1 (mem_digits_of_openingIndex? hopening hc), i, value, hi⟩
    · rintro ⟨rfl, length, -, i, value, hi⟩
      exact ⟨rfl, i, hi, openingIndex?_eq_some_iff.2 ⟨length, value⟩⟩
  case served =>
    intro name
    simp only [load_eq_some_iff hr, resolve_eq_some_iff hr, mark]
    constructor
    · rintro ⟨text, s, rfl, i, p, hopening, hp, -⟩
      have hi := (List.getElem?_eq_some_iff.1 hp).1
      rw [Registry.length_toList] at hi
      exact ⟨s, rfl, rfl, i, hi, hopening⟩
    · rintro ⟨s, rfl, -, i, hi, hopening⟩
      rw [← Registry.length_toList] at hi
      exact ⟨_, s, rfl, i, _, hopening, List.getElem?_eq_getElem hi, rfl⟩
  case module =>
    intro s text htext
    obtain ⟨_, hname, i, p, hopening, hp, rfl⟩ := (load_eq_some_iff hr).1 htext
    obtain rfl := virtualName_inj.1 hname
    exact ⟨i, p, (openingIndex?_eq_some_iff.1 hopening).2, hp, rfl⟩
  case suffix =>
    intro s t hst
    have opening : openingIndex? s = openingIndex? t := congrArg ModuleId.index? hst
    ext text
    simp only [← mark, load_eq_some_iff hr, virtualName_inj, exists_eq_left', opening]
  case once =>
    intro s name hname
    obtain ⟨rfl, -⟩ := (resolve_eq_some_iff hr).1 hname
    have unmarked : virtualMark ∉ Base36.digits := by decide
    have none : openingIndex? (virtualName s) = none := by
      rw [Option.eq_none_iff_forall_not_mem]
      intro i hi
      exact unmarked (mem_digits_of_openingIndex? hi (by simp [virtualName]))
    rw [(resolve_and_load_of_openingIndex?_eq_none hr none).1]
  case short =>
    intro s hs
    exact resolve_and_load_of_openingIndex?_eq_none hr (openingIndex?_eq_none_of_length_lt hs)
  case multibyte =>
    rintro s ⟨c, hc, hsize⟩
    exact resolve_and_load_of_openingIndex?_eq_none hr (openingIndex?_eq_none_of_utf8Size hc hsize)

/-- Of three entries the last is claimed and served with any text after its number; a fourth one is
not, and neither is a name in which a character goes on after four bytes. -/
theorem looksUp_after_two_sources :
    let calls := [.transform "import {a, b} from 'maic/v'" "first",
      .transform "import {w} from 'maic'; import {} from \"maic/w\"" "second"]
    let plugin := ((start .silent).run calls).plugin
    plugin.Reachable ∧ LooksUp plugin ∧
      (plugin.resolve "0002é").answer = some "\x000002é" ∧ (plugin.resolve "0003").answer = none ∧
      (plugin.resolve "000é").answer = none ∧
      (plugin.load ("\x00" ++ "0001?raw")).answer = some "export * from 'maic/w/index.js';" := by
  intro calls plugin
  have reachable : plugin.Reachable := (Reachable.start .silent).run calls
  have looks := reachable.looksUp
  have multibyte := (looks.multibyte "000é" ⟨'é', by decide, by decide⟩).1
  have suffix := looks.suffix "0001?raw" "0001" (by decide)
  exact ⟨reachable, looks, by decide +kernel, by decide +kernel,
    congrArg Outcome.answer multibyte, suffix.trans (by decide +kernel)⟩

end Plugin

end IconImports
