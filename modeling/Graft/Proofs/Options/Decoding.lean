import Graft.Options.Load
import Graft.Proofs.Toml.Keys
import Mathlib

/-!
# Decoding of options

The entry `matching` of a document alone decides whether options can be read and which ones. It may
be a table that has only switches, or an array that begins with them (`Readable`), in whatever
notation; each switch that it does not give has its default. A file is read as its text is.
-/

namespace Graft.Options

open Toml (Entries Tree)

/-! ## Switches -/

/-- The switches, in the order in which an array gives them. -/
inductive Switch where
  | strict
  | types
  deriving DecidableEq, Inhabited

namespace Switch

/-- The key that stands for a switch in a table. -/
def name : Switch → String
  | .strict => "strict_function_capture"
  | .types => "compare_param_types"

/-- The place of a switch in an array. -/
def place : Switch → Nat
  | .strict => 0
  | .types => 1

/-- The value of a switch among options. -/
def of : Switch → Options → Bool
  | .strict, options => options.strictFunctionCapture
  | .types, options => options.compareParamTypes

def set (value : Bool) (options : Options) : Switch → Options
  | .strict => { options with strictFunctionCapture := value }
  | .types => { options with compareParamTypes := value }

/-- What stands for a switch in a table or an array. -/
def part? (switch : Switch) : Tree → Option Tree
  | .scalar _ _ => none
  | .array _ items => items[switch.place]?
  | .table _ _ entries => Entries.value? entries switch.name
  | .tables items => items[switch.place]?

/-- The value that a document gives to a switch, if it gives one. -/
def given? (switch : Switch) (document : Entries) : Option Bool :=
  ((document.value? "matching").bind switch.part?).bind Tree.boolean?

theorem eq_of_name_eq {switch switch' : Switch} (h : switch.name = switch'.name) :
    switch = switch' := by
  revert h
  cases switch <;> cases switch' <;> decide

theorem of_set_self (switch : Switch) (value : Bool) (options : Options) :
    switch.of (switch.set value options) = value := by
  cases switch <;> rfl

theorem of_set_of_ne {switch switch' : Switch} (h : switch' ≠ switch) (value : Bool)
    (options : Options) : switch'.of (switch.set value options) = switch'.of options := by
  cases switch <;> cases switch' <;> first | rfl | exact absurd rfl h

end Switch

theorem ext_of {options options' : Options}
    (h : ∀ switch : Switch, switch.of options = switch.of options') : options = options' := by
  obtain ⟨strict, types⟩ := options
  obtain ⟨strict', types'⟩ := options'
  obtain rfl : strict = strict' := h .strict
  obtain rfl : types = types' := h .types
  rfl

/-- Holds of an entry that gives a value to a switch. -/
def Gives (entry : Toml.Key × Tree) (switch : Switch) (value : Bool) : Prop :=
  entry.1.text = switch.name ∧ entry.2.boolean? = some value

/-- Holds of a part of a document that options can be read from. -/
def Readable : Tree → Prop
  | .scalar _ _ => False
  | .array _ items => ∀ item ∈ items.take 2, ∃ value, item.boolean? = some value
  | .table _ _ entries => ∀ entry ∈ entries, ∃ switch value, Gives entry switch value
  | .tables items => ∀ item ∈ items.take 2, ∃ value, item.boolean? = some value

/-! ## What is read -/

/-- Options are told by their switches. -/
theorem ok_eq_ok_iff {options result : Options} :
    (.ok options : Except Problem Options) = .ok result ↔
      ∀ switch : Switch, switch.of result = switch.of options := by
  rw [Except.ok.injEq]
  constructor
  · rintro rfl
    exact fun _ => rfl
  · exact fun h => ext_of fun switch => (h switch).symm

theorem bind_eq_ok_iff {α β ε : Type} {first : Except ε α} {next : α → Except ε β} {b : β} :
    first >>= next = .ok b ↔ ∃ a, first = .ok a ∧ next a = .ok b := by
  cases first with
  | error e => simp [Bind.bind, Except.bind]
  | ok a => simp [Bind.bind, Except.bind]

theorem mapError_eq_ok_iff {α ε ε' : Type} {answer : Except ε α} {f : ε → ε'} {a : α} :
    answer.mapError f = .ok a ↔ answer = .ok a := by
  cases answer with
  | error e => simp [Except.mapError]
  | ok a => simp [Except.mapError]

theorem decodeSwitch_eq_ok_iff {place : Span} {tree : Tree} {value : Bool} :
    decodeSwitch place tree = .ok value ↔ tree.boolean? = some value := by
  unfold decodeSwitch Tree.boolean?
  split <;> simp

theorem decodeEntry_of_eq_name {entry : Toml.Key × Tree} {switch : Switch}
    (h : entry.1.text = switch.name) (options : Options) : decodeEntry options entry =
      decodeSwitch entry.1.span entry.2 >>= fun value => pure (switch.set value options) := by
  obtain ⟨key, tree⟩ := entry
  unfold decodeEntry
  cases switch with
  | strict => exact if_pos h
  | types =>
    have hother : key.text ≠ Switch.strict.name := fun hkey =>
      Switch.noConfusion (Switch.eq_of_name_eq (h.symm.trans hkey))
    exact (if_neg hother).trans (if_pos h)

theorem decodeEntry_of_ne_name {entry : Toml.Key × Tree}
    (h : ∀ switch : Switch, entry.1.text ≠ switch.name) (options : Options) :
    decodeEntry options entry = .error ⟨entry.1.span, .unknownField entry.1.text⟩ := by
  obtain ⟨key, tree⟩ := entry
  unfold decodeEntry
  exact (if_neg (h .strict)).trans (if_neg (h .types))

/-- An entry is read if it gives a switch, which is then set. -/
theorem decodeEntry_eq_ok_iff {options result : Options} {entry : Toml.Key × Tree} :
    decodeEntry options entry = .ok result ↔
      ∃ switch value, Gives entry switch value ∧ switch.set value options = result := by
  by_cases hknown : ∃ switch : Switch, entry.1.text = switch.name
  · obtain ⟨switch, hname⟩ := hknown
    rw [decodeEntry_of_eq_name hname, bind_eq_ok_iff]
    constructor
    · rintro ⟨value, hvalue, hset⟩
      exact ⟨switch, value, ⟨hname, decodeSwitch_eq_ok_iff.mp hvalue⟩, Except.ok.inj hset⟩
    · rintro ⟨switch', value, ⟨hname', hvalue⟩, hset⟩
      obtain rfl := Switch.eq_of_name_eq (hname.symm.trans hname')
      exact ⟨value, decodeSwitch_eq_ok_iff.mpr hvalue, congrArg Except.ok hset⟩
  · rw [decodeEntry_of_ne_name (not_exists.mp hknown)]
    constructor
    · intro h
      cases h
    · rintro ⟨switch, value, ⟨hname, -⟩, -⟩
      exact absurd ⟨switch, hname⟩ hknown

/-- The value of a switch after entries, if no key repeats: the first entry that gives it decides, no
matter what the switch was before. -/
theorem getD_cons_of_gives {entry : Toml.Key × Tree} {rest : Entries} {switch : Switch}
    {value : Bool} (h : Gives entry switch value) (hnew : entry.1.text ∉ rest.names)
    (options : Options) (switch' : Switch) :
    ((Entries.value? (entry :: rest) switch'.name).bind Tree.boolean?).getD (switch'.of options) =
      ((rest.value? switch'.name).bind Tree.boolean?).getD
        (switch'.of (switch.set value options)) := by
  obtain ⟨hname, hvalue⟩ := h
  rw [Entries.value?_cons]
  by_cases hsame : switch' = switch
  · rw [hsame, if_pos hname, Entries.value?_eq_none_iff.mpr (hname ▸ hnew), Switch.of_set_self]
    rw [Option.bind_some, hvalue]
    rfl
  · have hother : entry.1.text ≠ switch'.name := fun hname' =>
      hsame (Switch.eq_of_name_eq (hname'.symm.trans hname))
    rw [if_neg hother, Switch.of_set_of_ne hsame]

/-- The induction is on the entries; options are what the entries before have set. -/
theorem foldlM_decodeEntry_eq_ok_iff {entries : Entries} : ∀ {options result : Options},
    entries.names.Nodup → (entries.foldlM decodeEntry options = .ok result ↔
      (∀ entry ∈ entries, ∃ switch value, Gives entry switch value) ∧
      ∀ switch : Switch, switch.of result =
        ((entries.value? switch.name).bind Tree.boolean?).getD (switch.of options)) := by
  induction entries with
  | nil =>
    intro options result _
    exact ok_eq_ok_iff.trans (and_iff_right (List.forall_mem_nil _)).symm
  | cons entry rest ih =>
    intro options result hnodup
    obtain ⟨hnew, hrest⟩ := List.nodup_cons.mp hnodup
    rw [List.foldlM_cons, bind_eq_ok_iff, List.forall_mem_cons]
    constructor
    · rintro ⟨middle, hentry, hmiddle⟩
      obtain ⟨switch, value, hgives, rfl⟩ := decodeEntry_eq_ok_iff.mp hentry
      obtain ⟨heach, hof⟩ := (ih hrest).mp hmiddle
      refine ⟨⟨⟨switch, value, hgives⟩, heach⟩, fun switch' => ?_⟩
      rw [getD_cons_of_gives hgives hnew, hof]
    · rintro ⟨⟨⟨switch, value, hgives⟩, heach⟩, hof⟩
      refine ⟨_, decodeEntry_eq_ok_iff.mpr ⟨switch, value, hgives, rfl⟩, (ih hrest).mpr ⟨heach, ?_⟩⟩
      intro switch'
      rw [hof, getD_cons_of_gives hgives hnew]

/-- In order, at most two switches are given, and items after them are not looked at. -/
theorem decodeItems_eq_ok_iff {place : Span} {items : List Tree} {result : Options} :
    decodeItems place items = .ok result ↔
      (∀ item ∈ items.take 2, ∃ value, item.boolean? = some value) ∧
      ∀ switch : Switch, switch.of result =
        (items[switch.place]?.bind Tree.boolean?).getD (switch.of {}) := by
  match items with
  | [] => exact ok_eq_ok_iff.trans (and_iff_right (List.forall_mem_nil _)).symm
  | [strict] =>
    rw [decodeItems, bind_eq_ok_iff]
    constructor
    · rintro ⟨value, hvalue, hresult⟩
      rw [decodeSwitch_eq_ok_iff] at hvalue
      cases hresult
      refine ⟨List.forall_mem_singleton.mpr ⟨value, hvalue⟩, fun switch => ?_⟩
      cases switch <;> simp [Switch.place, Switch.of, hvalue]
    · rintro ⟨heach, hof⟩
      obtain ⟨value, hvalue⟩ := List.forall_mem_singleton.mp heach
      refine ⟨value, decodeSwitch_eq_ok_iff.mpr hvalue, ok_eq_ok_iff.mpr fun switch => ?_⟩
      rw [hof]
      cases switch <;> simp [Switch.place, Switch.of, hvalue]
  | strict :: types :: rest =>
    have htake : (strict :: types :: rest).take 2 = [strict, types] := rfl
    rw [decodeItems, bind_eq_ok_iff, htake, List.forall_mem_cons, List.forall_mem_singleton]
    simp only [bind_eq_ok_iff, decodeSwitch_eq_ok_iff]
    constructor
    · rintro ⟨value, hvalue, value', hvalue', hresult⟩
      cases hresult
      refine ⟨⟨⟨value, hvalue⟩, ⟨value', hvalue'⟩⟩, fun switch => ?_⟩
      cases switch <;> simp [Switch.place, Switch.of, hvalue, hvalue']
    · rintro ⟨⟨⟨value, hvalue⟩, ⟨value', hvalue'⟩⟩, hof⟩
      refine ⟨value, hvalue, value', hvalue', ok_eq_ok_iff.mpr fun switch => ?_⟩
      rw [hof]
      cases switch <;> simp [Switch.place, Switch.of, hvalue, hvalue']

/-- Options are read from what is readable, each switch from its part or else by default. -/
theorem decodeTree_eq_ok_iff {place : Span} {tree : Tree} {result : Options}
    (h : tree.UniqueKeys) : decodeTree place tree = .ok result ↔
      Readable tree ∧ ∀ switch : Switch, switch.of result =
        ((switch.part? tree).bind Tree.boolean?).getD (switch.of {}) := by
  cases tree with
  | scalar span value =>
    constructor
    · intro hdecode
      cases value <;> cases hdecode
    · rintro ⟨hreadable, -⟩
      exact hreadable.elim
  | array span items => exact decodeItems_eq_ok_iff
  | table span origin entries =>
    exact foldlM_decodeEntry_eq_ok_iff (Entries.UniqueKeys.of_table h).nodup
  | tables items => exact decodeItems_eq_ok_iff

theorem ofDocument_eq_ok_iff {document : Entries} {result : Options} (h : document.UniqueKeys) :
    ofDocument document = .ok result ↔
      (document.value? "matching" = none ∨
        ∃ tree, document.value? "matching" = some tree ∧ Readable tree) ∧
      ∀ switch : Switch, switch.of result = (switch.given? document).getD (switch.of {}) := by
  unfold ofDocument Switch.given? Entries.value?
  cases hfind : document.find? "matching" with
  | none => exact ok_eq_ok_iff.trans (and_iff_right (.inl rfl)).symm
  | some entry =>
    obtain ⟨key, tree⟩ := entry
    have htree : Readable tree ↔
        some tree = none ∨ ∃ tree', some tree = some tree' ∧ Readable tree' := by simp
    exact (decodeTree_eq_ok_iff (h.of_find? hfind)).trans (and_congr_left' htree)

theorem exists_ofDocument_eq_ok_iff {document : Entries} (h : document.UniqueKeys) :
    (∃ options, ofDocument document = .ok options) ↔
      document.value? "matching" = none ∨
        ∃ tree, document.value? "matching" = some tree ∧ Readable tree := by
  constructor
  · rintro ⟨options, hoptions⟩
    exact ((ofDocument_eq_ok_iff h).mp hoptions).1
  · intro hreadable
    let options : Options :=
      ⟨(Switch.strict.given? document).getD true, (Switch.types.given? document).getD false⟩
    refine ⟨options, (ofDocument_eq_ok_iff h).mpr ⟨hreadable, fun switch => ?_⟩⟩
    cases switch <;> rfl

/-! ## Parts that say the same -/

theorem isSome_eq_of_rel {part part' : Option Tree} (h : Option.Rel Tree.Same part part') :
    part.isSome = part'.isSome := by
  cases h <;> rfl

theorem bind_boolean?_eq_of_rel {part part' : Option Tree} (h : Option.Rel Tree.Same part part') :
    part.bind Tree.boolean? = part'.bind Tree.boolean? := by
  cases h with
  | some hsame => exact hsame.boolean?_eq
  | none => rfl

theorem map_boolean?_eq_of_forall₂ {items items' : List Tree}
    (h : List.Forall₂ Tree.Same items items') :
    items.map Tree.boolean? = items'.map Tree.boolean? := by
  induction h with
  | nil => rfl
  | cons hsame _ ih => rw [List.map_cons, List.map_cons, hsame.boolean?_eq, ih]

/-- If no key repeats, it is what stands under each key that decides. -/
theorem readable_table_iff {span : Option Span} {origin : Toml.Origin} {entries : Entries}
    (h : entries.names.Nodup) : Readable (.table span origin entries) ↔
      ∀ name, (entries.value? name).isSome → ∃ (switch : Switch) (value : Bool),
        name = switch.name ∧ (entries.value? name).bind Tree.boolean? = some value := by
  constructor
  · intro hreadable name hsome
    obtain ⟨tree, hvalue⟩ := Option.isSome_iff_exists.mp hsome
    obtain ⟨entry, hentry, rfl, rfl⟩ := (Entries.value?_eq_some_iff h).mp hvalue
    obtain ⟨switch, value, hname, hboolean⟩ := hreadable entry hentry
    exact ⟨switch, value, hname, by rw [hvalue, Option.bind_some, hboolean]⟩
  · intro heach entry hentry
    have hvalue := (Entries.value?_eq_some_iff h).mpr ⟨entry, hentry, rfl, rfl⟩
    obtain ⟨switch, value, hname, hboolean⟩ := heach entry.1.text (by rw [hvalue]; rfl)
    rw [hvalue, Option.bind_some] at hboolean
    exact ⟨switch, value, hname, hboolean⟩

theorem readable_iff_of_items? {tree : Tree} {items : List Tree} (h : tree.items? = some items) :
    Readable tree ↔ ∀ found ∈ (items.map Tree.boolean?).take 2, ∃ value, found = some value := by
  rw [← List.map_take, List.forall_mem_map]
  cases tree <;> cases h <;> rfl

theorem part?_bind_of_items? {tree : Tree} {items : List Tree} (h : tree.items? = some items)
    (switch : Switch) :
    (switch.part? tree).bind Tree.boolean? = (items.map Tree.boolean?)[switch.place]?.join := by
  rw [List.getElem?_map]
  change _ = (Option.map Tree.boolean? items[switch.place]?).bind id
  rw [Option.bind_map]
  cases tree <;> cases h <;> rfl

variable {tree tree' : Tree}

theorem readable_iff_of_same (h : tree.Same tree') (hunique : tree.UniqueKeys)
    (hunique' : tree'.UniqueKeys) : Readable tree ↔ Readable tree' := by
  cases h with
  | scalar _ _ _ => rfl
  | items hitems hitems' each =>
    rw [readable_iff_of_items? hitems, readable_iff_of_items? hitems',
      map_boolean?_eq_of_forall₂ each]
  | table _ _ _ _ each =>
    rw [readable_table_iff (Entries.UniqueKeys.of_table hunique).nodup,
      readable_table_iff (Entries.UniqueKeys.of_table hunique').nodup]
    refine forall_congr' fun name => ?_
    rw [isSome_eq_of_rel (each name), bind_boolean?_eq_of_rel (each name)]

theorem part?_bind_eq_of_same (h : tree.Same tree') (switch : Switch) :
    (switch.part? tree).bind Tree.boolean? = (switch.part? tree').bind Tree.boolean? := by
  cases h with
  | scalar _ _ _ => rfl
  | items hitems hitems' each =>
    rw [part?_bind_of_items? hitems, part?_bind_of_items? hitems', map_boolean?_eq_of_forall₂ each]
  | table _ _ _ _ each => exact bind_boolean?_eq_of_rel (each switch.name)

theorem ofDocument_eq_ok_iff_of_same {document document' : Entries} {options : Options}
    (h : document.UniqueKeys) (h' : document'.UniqueKeys)
    (hsame : Option.Rel Tree.Same (document.value? "matching") (document'.value? "matching")) :
    ofDocument document = .ok options ↔ ofDocument document' = .ok options := by
  rw [ofDocument_eq_ok_iff h, ofDocument_eq_ok_iff h']
  unfold Switch.given?
  generalize hvalue : document.value? "matching" = part at hsame
  generalize hvalue' : document'.value? "matching" = part' at hsame
  cases hsame with
  | none => rfl
  | some hsame =>
    have hreadable := readable_iff_of_same hsame (h.of_value? hvalue) (h'.of_value? hvalue')
    simp only [Option.bind_some, part?_bind_eq_of_same hsame, reduceCtorEq, false_or,
      Option.some.injEq, exists_eq_left', hreadable]

/-! ## Texts and files -/

section Load

variable {reader : Toml.Reader} {path text : String} {document : Entries} {options : Options}

theorem ofToml_eq_ok_iff (h : reader text = .ok document) :
    ofToml reader text = .ok options ↔ ofDocument document = .ok options := by
  rw [ofToml, h]
  exact mapError_eq_ok_iff

/-- The complaint of the reader is part of the report. -/
theorem exists_ofToml_eq_error {complaint : String} (h : reader text = .error complaint) :
    ∃ error, ofToml reader text = .error error ∧
      error.report = "failed to parse matcher options: " ++ complaint := by
  rw [ofToml, h]
  exact ⟨.malformed complaint, rfl, rfl⟩

theorem load_bytes : load reader path (.bytes text.toUTF8) =
    (ofToml reader text).mapError (.text path) := by
  have htext : String.fromUTF8? text.toUTF8 = some text := dif_pos text.isValidUTF8
  rw [load, htext]

theorem load_bytes_eq_ok_iff :
    load reader path (.bytes text.toUTF8) = .ok options ↔ ofToml reader text = .ok options := by
  rw [load_bytes, mapError_eq_ok_iff]

/-- What is wrong with a file is reported with its path. -/
theorem exists_load_bytes_eq_error {cause : TextError} (h : ofToml reader text = .error cause) :
    ∃ error, load reader path (.bytes text.toUTF8) = .error error ∧
      error.report = path ++ ": " ++ cause.report := by
  rw [load_bytes, h]
  exact ⟨.text path cause, rfl, rfl⟩

end Load

/-- Whatever reads the documents, as long as no key repeats in them: a text that is no document gives
no options and the report ends in the reader's complaint. A document gives options if it has no entry
`matching` or a readable one; each switch is then what that entry says, or else its default. So
documents in which `matching` says the same are not told apart. A file is read as its text, and where
that fails, the report is the same behind the path. -/
theorem options_decided_by_matching (reader : Toml.Reader) (hkeys : reader.UniqueKeys) :
    (∀ text complaint, reader text = .error complaint → ∃ error,
      ofToml reader text = .error error ∧
        error.report = "failed to parse matcher options: " ++ complaint) ∧
    (∀ (text : String) (document : Entries), reader text = .ok document →
      ((∃ options, ofToml reader text = .ok options) ↔
        document.value? "matching" = none ∨
          ∃ tree, document.value? "matching" = some tree ∧ Readable tree) ∧
      ∀ options, ofToml reader text = .ok options →
        options.strictFunctionCapture = (Switch.strict.given? document).getD true ∧
        options.compareParamTypes = (Switch.types.given? document).getD false) ∧
    (∀ (text text' : String) (document document' : Entries),
      reader text = .ok document → reader text' = .ok document' →
      Option.Rel Tree.Same (document.value? "matching") (document'.value? "matching") →
      ∀ options, ofToml reader text = .ok options ↔ ofToml reader text' = .ok options) ∧
    ∀ path text,
      (∀ options, load reader path (.bytes text.toUTF8) = .ok options ↔
        ofToml reader text = .ok options) ∧
      ∀ cause, ofToml reader text = .error cause → ∃ error,
        load reader path (.bytes text.toUTF8) = .error error ∧
        error.report = path ++ ": " ++ cause.report := by
  refine ⟨fun _ _ => exists_ofToml_eq_error, ?_, ?_, ?_⟩
  · intro text document hread
    have hunique := hkeys text document hread
    simp only [ofToml_eq_ok_iff hread]
    refine ⟨exists_ofDocument_eq_ok_iff hunique, fun options hoptions => ?_⟩
    have hof := ((ofDocument_eq_ok_iff hunique).mp hoptions).2
    exact ⟨hof .strict, hof .types⟩
  · intro text text' document document' hread hread' hsame options
    rw [ofToml_eq_ok_iff hread, ofToml_eq_ok_iff hread']
    exact ofDocument_eq_ok_iff_of_same (hkeys text document hread) (hkeys text' document' hread')
      hsame
  · intro path text
    exact ⟨fun options => load_bytes_eq_ok_iff, fun cause h => exists_load_bytes_eq_error h⟩

/-- The document `matching = { strict_function_capture = false, compare_param_types = true }`. -/
def inBraces : Entries :=
  [(⟨"matching", ⟨0, 8⟩⟩, .table (some ⟨11, 63⟩) .braces
    [(⟨"strict_function_capture", ⟨13, 23⟩⟩, .scalar ⟨39, 5⟩ (.boolean false)),
      (⟨"compare_param_types", ⟨46, 19⟩⟩, .scalar ⟨68, 4⟩ (.boolean true))])]

/-- The same switches the other way round under a header, behind another entry. -/
def underHeader : Entries :=
  [(⟨"other", ⟨0, 5⟩⟩, .scalar ⟨8, 4⟩ (.boolean true)),
    (⟨"matching", ⟨14, 8⟩⟩, .table (some ⟨13, 69⟩) .header
      [(⟨"compare_param_types", ⟨24, 19⟩⟩, .scalar ⟨46, 4⟩ (.boolean true)),
        (⟨"strict_function_capture", ⟨51, 23⟩⟩, .scalar ⟨77, 5⟩ (.boolean false))])]

/-- What is wrong with a line that begins with an equals sign. -/
def missingKey : String :=
  "TOML parse error at line 1, column 1\n  |\n1 | =\n  | ^\ninvalid key\n"

/-- Reads documents, and makes that complaint of any other text. -/
def documentReader : Toml.Reader := Toml.reader fun _ => missingKey

theorem documentReader_inBraces : documentReader
    "matching = \x7b strict_function_capture = false, compare_param_types = true \x7d" =
      .ok inBraces := by
  have hparse : Toml.parse?
      "matching = \x7b strict_function_capture = false, compare_param_types = true \x7d" =
        some inBraces := by cbv
  rw [documentReader, Toml.reader, hparse]

theorem documentReader_underHeader : documentReader
    "other = true\n[matching]\ncompare_param_types = true\nstrict_function_capture = false\n" =
      .ok underHeader := by
  have hparse : Toml.parse?
      "other = true\n[matching]\ncompare_param_types = true\nstrict_function_capture = false\n" =
        some underHeader := by cbv
  rw [documentReader, Toml.reader, hparse]

theorem documentReader_equalsSign : documentReader "=" = .error missingKey := by
  have hparse : Toml.parse? "=" = none := by cbv
  rw [documentReader, Toml.reader, hparse]

theorem same_matching : Option.Rel Tree.Same (Entries.value? inBraces "matching")
    (Entries.value? underHeader "matching") := by
  refine .some (.table _ _ _ _ fun name => ?_)
  by_cases hstrict : name = "strict_function_capture"
  · subst hstrict
    exact .some (.scalar _ _ _)
  · by_cases htypes : name = "compare_param_types"
    · subst htypes
      exact .some (.scalar _ _ _)
    · simp only [Entries.value?_cons]
      rw [if_neg (Ne.symm hstrict), if_neg (Ne.symm htypes), if_neg (Ne.symm htypes),
        if_neg (Ne.symm hstrict)]
      exact .none

theorem readable_inBraces :
    ∃ tree, Entries.value? inBraces "matching" = some tree ∧ Readable tree := by
  refine ⟨_, rfl, List.forall_mem_cons.mpr ⟨⟨.strict, false, rfl, rfl⟩, ?_⟩⟩
  exact List.forall_mem_singleton.mpr ⟨.types, true, rfl, rfl⟩

theorem options_decided_by_matching_notations :
    (ofToml documentReader
        "matching = \x7b strict_function_capture = false, compare_param_types = true \x7d" =
      .ok ⟨false, true⟩ ∧
    ofToml documentReader
        "other = true\n[matching]\ncompare_param_types = true\nstrict_function_capture = false\n" =
      .ok ⟨false, true⟩) ∧
    ∃ error, load documentReader "graft.toml" (.bytes "=".toUTF8) = .error error ∧
      error.report = "graft.toml" ++ ": " ++
        ("failed to parse matcher options: " ++ missingKey) := by
  have hdecided := options_decided_by_matching documentReader (Toml.reader_uniqueKeys _)
  have hbraces := hdecided.2.1 _ _ documentReader_inBraces
  obtain ⟨⟨strict, types⟩, hoptions⟩ := hbraces.1.mpr (.inr readable_inBraces)
  have hstrict : strict = false := (hbraces.2 _ hoptions).1
  have htypes : types = true := (hbraces.2 _ hoptions).2
  rw [hstrict, htypes] at hoptions
  have hother := hdecided.2.2.1 _ _ _ _ documentReader_inBraces documentReader_underHeader
    same_matching
  obtain ⟨cause, hcause, hreport⟩ := hdecided.1 "=" missingKey documentReader_equalsSign
  rw [← hreport]
  exact ⟨⟨hoptions, (hother _).mp hoptions⟩, (hdecided.2.2.2 "graft.toml" "=").2 cause hcause⟩

end Graft.Options
