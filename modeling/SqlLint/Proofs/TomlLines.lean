import SqlLint.Proofs.TomlValues
import SqlLint.Toml.Document

/-!
# Written TOML lines are read back

Headers and entries with bare keys and plain values are read back line by line, with any number of
empty lines between them (`statements?_of_spaced`).  Sections with different names, each with
different keys, come back as one table each (`read?_of_spaced`).
-/

set_option autoImplicit false

namespace SqlLint.Toml

/-! ## Statements -/

/-- A key that is written without quotes. -/
def isBare (key : String) : Bool :=
  !key.toList.isEmpty && key.toList.all isBareKeyChar

theorem isBare_iff {key : String} :
    isBare key = true ↔ key.toList ≠ [] ∧ ∀ c ∈ key.toList, isBareKeyChar c = true := by
  simp [isBare]

theorem eq_cons_of_isBare {key : String} (bare : isBare key = true) :
    ∃ first others, key.toList = first :: others ∧ isBareKeyChar first = true := by
  obtain ⟨nonempty, all⟩ := isBare_iff.1 bare
  obtain ⟨first, others, shape⟩ := List.exists_cons_of_ne_nil nonempty
  exact ⟨first, others, shape, all first (by rw [shape]; exact List.mem_cons_self)⟩

/-- A bare key is read up to a character that is none of a key. -/
theorem readKey?_bare {key : String} (bare : isBare key = true) {c : Char}
    (stop : isBareKeyChar c = false) {rest : List Char}
    (noDot : (dropSpaces (c :: rest)).head? ≠ some '.') :
    readKey? (key.toList ++ c :: rest) = some ([key], dropSpaces (c :: rest)) := by
  obtain ⟨nonempty, all⟩ := isBare_iff.1 bare
  have noKey : ¬ isBareKeyChar c = true := by
    rw [stop]
    exact Bool.false_ne_true
  have part : readKeyPart? (key.toList ++ c :: rest) = some (key, c :: rest) := by
    rw [readKeyPart?, List.takeWhile_append_of_pos all, List.dropWhile_append_of_pos all,
      List.takeWhile_cons_of_neg noKey, List.dropWhile_cons_of_neg noKey, List.append_nil]
    split
    · next empty => exact absurd empty nonempty
    · rw [String.ofList_toList]
  have front : dropSpaces (key.toList ++ c :: rest) = key.toList ++ c :: rest := by
    obtain ⟨first, others, shape, inKey⟩ := eq_cons_of_isBare bare
    have noBlank : first ≠ ' ' := Text.ne_of_class inKey (by decide)
    have noTab : first ≠ '\t' := Text.ne_of_class inKey (by decide)
    rw [shape]
    exact List.dropWhile_cons_of_neg (by simp [isSpace, noBlank, noTab])
  rw [readKey?, front, readKeyParts?, part]
  simp only
  split
  · next dotted => exact absurd (by rw [dotted]; rfl) noDot
  · rfl

theorem readStatement?_header {name : String} (bare : isBare name = true) (rest : List Char) :
    readStatement? ('[' :: (name.toList ++ ']' :: rest)) = some (.header [name], rest) := by
  have noDot : (dropSpaces (']' :: rest)).head? ≠ some '.' := fun same =>
    absurd (Option.some.inj same) (by decide)
  have key := readKey?_bare bare (by decide) noDot
  have header : readHeader? [']'] .header (name.toList ++ ']' :: rest) =
      some (.header [name], rest) := by
    rw [readHeader?, key]
    rfl
  obtain ⟨first, others, shape, inKey⟩ := eq_cons_of_isBare bare
  have noBracket : first ≠ '[' := Text.ne_of_class inKey (by decide)
  rw [shape] at header ⊢
  unfold readStatement?
  split
  · next same =>
      simp only [List.cons_append, List.cons.injEq, true_and] at same
      exact absurd same.1 noBracket
  · next same =>
      rw [← (List.cons.inj same).2]
      exact header
  · next noHeader => exact absurd rfl (noHeader _)

theorem readStatement?_entry {key : String} {written : Written} (bare : isBare key = true)
    (plain : written.Plain) (rest : List Char) :
    readStatement? (key.toList ++ ' ' :: '=' :: ' ' :: (written.print ++ '\n' :: rest)) =
      some (.assign [key] written.value, '\n' :: rest) := by
  have equals : dropSpaces (' ' :: '=' :: ' ' :: (written.print ++ '\n' :: rest)) =
      '=' :: ' ' :: (written.print ++ '\n' :: rest) := rfl
  have noDot : (dropSpaces (' ' :: '=' :: ' ' :: (written.print ++ '\n' :: rest))).head? ≠
      some '.' := fun same => absurd (Option.some.inj same) (by decide)
  have front := readKey?_bare bare (by decide) noDot
  have blank : dropSpaces (' ' :: (written.print ++ '\n' :: rest)) =
      written.print ++ '\n' :: rest := dropSpaces_print plain _
  have value : readValue? nestingLimit (written.print ++ '\n' :: rest) =
      some (written.value, '\n' :: rest) := readValue?_print 79 plain rest
  have assignment : readAssignment? (readValue? nestingLimit)
      (key.toList ++ ' ' :: '=' :: ' ' :: (written.print ++ '\n' :: rest)) =
        some (([key], written.value), '\n' :: rest) := by
    rw [readAssignment?, front, equals]
    simp only [blank, value, Option.map_some]
  obtain ⟨first, others, shape, inKey⟩ := eq_cons_of_isBare bare
  have noBracket : first ≠ '[' := Text.ne_of_class inKey (by decide)
  rw [shape] at assignment ⊢
  unfold readStatement?
  split
  · next same => exact absurd (List.cons.inj same).1 noBracket
  · next same => exact absurd (List.cons.inj same).1 noBracket
  · rw [assignment, Option.map_some]

/-! ## Lines -/

/-- A header or an entry of a written file; each starts a line of its own. -/
inductive Line
  | header (name : String)
  | entry (key : String) (written : Written)

namespace Line

def print : Line → List Char
  | header name => '[' :: name.toList ++ [']', '\n']
  | entry key written => printEntry (key, written)

def statement : Line → Statement
  | header name => .header [name]
  | entry key written => .assign [key] written.value

/-- A line that is read back: its key is bare, its value plain. -/
def Plain : Line → Prop
  | header name => isBare name = true
  | entry key written => isBare key = true ∧ written.Plain

/-- What no statement starts with: white space, the mark of a comment, or that of a byte order. -/
def blanks : List Char :=
  [' ', '\t', '\n', '\r', '#', '\uFEFF']

/-- The statement on a line is read up to the line break. -/
theorem readStatement?_print {line : Line} (plain : line.Plain) (rest : List Char) :
    ∃ first others, line.print ++ rest = first :: others ∧ rest.length ≤ others.length ∧
      first ∉ blanks ∧
      readStatement? (first :: others) = some (line.statement, '\n' :: rest) := by
  cases line with
  | header name =>
      refine ⟨'[', name.toList ++ ']' :: '\n' :: rest, by simp [print], ?_, by decide,
        readStatement?_header plain _⟩
      simp only [List.length_append, List.length_cons]
      omega
  | entry key written =>
      obtain ⟨bare, value⟩ := plain
      have read := readStatement?_entry bare value rest
      obtain ⟨first, others, shape, inKey⟩ := eq_cons_of_isBare bare
      have outside : ∀ sign ∈ blanks, isBareKeyChar sign = false :=
        Text.forall_mem_outside (by decide)
      have solid : first ∉ blanks := fun listed =>
        Text.ne_of_class inKey (outside first listed) rfl
      rw [shape, List.cons_append] at read
      refine ⟨first, _, by simp [print, printEntry, shape], ?_, solid, read⟩
      simp only [List.length_append, List.length_cons]
      omega

end Line

/-- A text that has some lines, with any number of empty lines between them. -/
inductive Spaced : List Line → List Char → Prop
  | nil : Spaced [] []
  | emptyLine {lines : List Line} {text : List Char} (later : Spaced lines text) :
      Spaced lines ('\n' :: text)
  | line (line : Line) {lines : List Line} {text : List Char} (later : Spaced lines text) :
      Spaced (line :: lines) (line.print ++ text)

namespace Spaced

theorem append {lines others : List Line} {text more : List Char} (first : Spaced lines text)
    (second : Spaced others more) : Spaced (lines ++ others) (text ++ more) := by
  induction first with
  | nil => exact second
  | emptyLine _ ih => exact .emptyLine ih
  | line line _ ih =>
      rw [List.append_assoc]
      exact .line line ih

theorem flatMap_print (lines : List Line) : Spaced lines (lines.flatMap Line.print) := by
  induction lines with
  | nil => exact .nil
  | cons line lines ih => exact .line line ih

/-- No text has more lines than characters, so that `readStatements?` reads them all. -/
theorem readStatements? {lines : List Line} {text : List Char} (spaced : Spaced lines text)
    (plain : ∀ line ∈ lines, line.Plain) {count : Nat} (enough : text.length ≤ count) :
    Toml.readStatements? count text = some (lines.map Line.statement) := by
  induction spaced generalizing count with
  | nil => cases count <;> rfl
  | emptyLine _ ih =>
      cases count with
      | zero => contradiction
      | succ count => exact ih plain (Nat.le_of_succ_le_succ enough)
  | @line line lines text _ ih =>
      obtain ⟨first, others, shape, shorter, solid, read⟩ :=
        Line.readStatement?_print (plain line List.mem_cons_self) text
      rw [shape] at enough ⊢
      cases count with
      | zero => contradiction
      | succ count =>
          have other : ∀ sign, sign ∈ Line.blanks → first ≠ sign := by
            rintro sign listed rfl
            exact solid listed
          have noBlank : dropSpaces (first :: others) = first :: others := by
            have noSpace := other ' ' (by decide)
            have noTab := other '\t' (by decide)
            exact List.dropWhile_cons_of_neg (by simp [isSpace, noSpace, noTab])
          have noBreak : afterBreak? (first :: others) = none := by
            unfold afterBreak?
            split
            · next same => exact absurd (List.cons.inj same).1 (other '\n' (by decide))
            · next same => exact absurd (List.cons.inj same).1 (other '\r' (by decide))
            · rfl
          have notEmpty : startsEmptyLine (first :: others) = false := by
            unfold startsEmptyLine
            split
            · next same => exact absurd (List.cons.inj same).1 (other '#' (by decide))
            · rw [noBreak]
              rfl
          have lineEnd : skipLineEnd? ('\n' :: text) = some text := rfl
          have later := ih (fun other listed => plain other (List.mem_cons_of_mem _ listed))
            (Nat.le_trans shorter (Nat.le_of_succ_le_succ enough))
          simp only [Toml.readStatements?, noBlank, List.isEmpty_cons, Bool.false_eq_true,
            if_false, notEmpty, read, lineEnd, later, Option.map_some, List.map_cons]

end Spaced

theorem Spaced.dropByteOrderMark_eq {lines : List Line} {text : List Char}
    (spaced : Spaced lines text) (plain : ∀ line ∈ lines, line.Plain) :
    dropByteOrderMark text = text := by
  cases spaced with
  | nil => rfl
  | emptyLine _ => rfl
  | line line _ =>
      obtain ⟨first, others, shape, _, solid, _⟩ :=
        Line.readStatement?_print (plain line List.mem_cons_self) _
      rw [shape]
      unfold dropByteOrderMark
      split
      · next same =>
          rw [(List.cons.inj same).1] at solid
          exact absurd (by decide) solid
      · rfl

theorem statements?_of_spaced {lines : List Line} {text : String}
    (spaced : Spaced lines text.toList) (plain : ∀ line ∈ lines, line.Plain) :
    statements? text = some (lines.map Line.statement) := by
  simp only [statements?, spaced.dropByteOrderMark_eq plain]
  exact spaced.readStatements? plain (Nat.le_refl _)

/-! ## Sections -/

namespace Section

/-- A section that is read back: its name and its keys are bare, no key occurs twice, and its
values are plain. -/
structure Plain (written : Section) : Prop where
  name_bare : isBare written.name = true
  keys_bare : ∀ key ∈ written.entries.map (·.1), isBare key = true
  keys_distinct : (written.entries.map (·.1)).Nodup
  values_plain : ∀ value ∈ written.entries.map (·.2), value.Plain

def lines (written : Section) : List Line :=
  .header written.name :: written.entries.map fun entry => .entry entry.1 entry.2

/-- The table that a section stands for. -/
def table (written : Section) : String × Value :=
  (written.name, .table .header (written.entries.map fun entry => (entry.1, entry.2.value)))

theorem plain_of_mem_lines {written : Section} (plain : written.Plain) {line : Line}
    (listed : line ∈ written.lines) : line.Plain := by
  rcases List.mem_cons.1 listed with rfl | inEntries
  · exact plain.name_bare
  · obtain ⟨entry, inSection, rfl⟩ := List.mem_map.1 inEntries
    exact ⟨plain.keys_bare _ (List.mem_map_of_mem inSection),
      plain.values_plain _ (List.mem_map_of_mem inSection)⟩

/-- Leaving out entries keeps a section plain. -/
theorem Plain.filter {written : Section} (plain : written.Plain) (kept : String × Written → Bool) :
    Plain ⟨written.name, written.entries.filter kept⟩ where
  name_bare := plain.name_bare
  keys_bare := fun key listed =>
    plain.keys_bare key ((List.filter_sublist.map _).mem listed)
  keys_distinct := plain.keys_distinct.sublist (List.filter_sublist.map _)
  values_plain := fun value listed =>
    plain.values_plain value ((List.filter_sublist.map _).mem listed)

theorem print_eq (written : Section) : written.print = written.lines.flatMap Line.print := by
  rw [lines, List.flatMap_cons, List.flatMap_map]
  rfl

end Section

theorem spaced_print (sections : List Section) :
    Spaced (sections.flatMap Section.lines) (print sections).toList := by
  rw [print, String.toList_ofList]
  induction sections with
  | nil => exact .nil
  | cons written sections ih =>
      have first : Spaced written.lines written.print := by
        rw [written.print_eq]
        exact .flatMap_print _
      cases sections with
      | nil => exact first.append .nil
      | cons next others => exact first.append (.emptyLine ih)

/-! ## Tables -/

theorem update?_of_fresh {key : String} {entries : Entries} (fresh : key ∉ entries.map (·.1))
    (change : Option Value → Option Value) :
    update? key change entries = (change none).map fun value => entries ++ [(key, value)] := by
  induction entries with
  | nil => rfl
  | cons entry entries ih =>
      rw [List.map_cons, List.mem_cons, not_or] at fresh
      rw [update?, if_neg (Ne.symm fresh.1), ih fresh.2, Option.map_map]
      rfl

theorem update?_of_last {key : String} {entries : Entries} (fresh : key ∉ entries.map (·.1))
    (value : Value) (change : Option Value → Option Value) :
    update? key change (entries ++ [(key, value)]) =
      (change (some value)).map fun changed => entries ++ [(key, changed)] := by
  induction entries with
  | nil =>
      rw [List.nil_append, update?, if_pos rfl]
      rfl
  | cons entry entries ih =>
      rw [List.map_cons, List.mem_cons, not_or] at fresh
      rw [List.cons_append, update?, if_neg (Ne.symm fresh.1), ih fresh.2, Option.map_map]
      rfl

theorem openTable?_of_fresh {name : String} {root : Entries} (fresh : name ∉ root.map (·.1)) :
    openTable? [name] root = some (root ++ [(name, .table .header [])]) :=
  update?_of_fresh fresh _

theorem assignIn?_of_fresh {name key : String} {root entries : Entries}
    (fresh : name ∉ root.map (·.1)) (freshKey : key ∉ entries.map (·.1)) (value : Value) :
    assignIn? [name] [key] value (root ++ [(name, .table .header entries)]) =
      some (root ++ [(name, .table .header (entries ++ [(key, value)]))]) := by
  have defined : assign? [key] value .header entries = some (entries ++ [(key, value)]) :=
    update?_of_fresh freshKey _
  rw [assignIn?, within?, update?_of_last fresh]
  simp [within?, defined]

/-- Entries go to the table that was opened last; it is the last one of the file so far. -/
theorem foldlM_entries {name : String} {root : Entries} (fresh : name ∉ root.map (·.1))
    (entries : Entries) (written : List (String × Written))
    (distinct : (entries.map (·.1) ++ written.map (·.1)).Nodup) :
    (written.map fun entry => Statement.assign [entry.1] entry.2.value).foldlM Progress.take?
        ⟨[name], root ++ [(name, .table .header entries)]⟩ =
      some ⟨[name], root ++ [(name, .table .header
        (entries ++ written.map fun entry => (entry.1, entry.2.value)))]⟩ := by
  induction written generalizing entries with
  | nil =>
      rw [List.map_nil, List.map_nil, List.append_nil]
      rfl
  | cons entry written ih =>
      have freshKey : entry.1 ∉ entries.map (·.1) := by
        intro listed
        exact (List.nodup_append.1 distinct).2.2 _ listed _ List.mem_cons_self rfl
      have taken : Progress.take? ⟨[name], root ++ [(name, .table .header entries)]⟩
          (.assign [entry.1] entry.2.value) =
            some ⟨[name], root ++ [(name, .table .header
              (entries ++ [(entry.1, entry.2.value)]))]⟩ := by
        rw [Progress.take?, assignIn?_of_fresh fresh freshKey]
        rfl
      have later := ih (entries ++ [(entry.1, entry.2.value)]) (by
        rw [List.map_append, List.append_assoc]
        exact distinct)
      rw [List.append_assoc] at later
      rw [List.map_cons, List.foldlM_cons, taken, List.map_cons]
      exact later

theorem foldlM_section {written : Section} (distinct : (written.entries.map (·.1)).Nodup)
    {progress : Progress} (fresh : written.name ∉ progress.root.map (·.1)) :
    (written.lines.map Line.statement).foldlM Progress.take? progress =
      some ⟨[written.name], progress.root ++ [written.table]⟩ := by
  have opened : progress.take? (.header [written.name]) =
      some ⟨[written.name], progress.root ++ [(written.name, .table .header [])]⟩ := by
    rw [Progress.take?, openTable?_of_fresh fresh]
    rfl
  rw [Section.lines, List.map_cons, List.map_map, List.foldlM_cons, Line.statement, opened]
  exact foldlM_entries fresh [] written.entries distinct

theorem root_foldlM_sections (sections : List Section)
    (distinctKeys : ∀ written ∈ sections, (written.entries.map (·.1)).Nodup)
    (progress : Progress)
    (distinct : (progress.root.map (·.1) ++ sections.map (·.name)).Nodup) :
    (((sections.flatMap Section.lines).map Line.statement).foldlM Progress.take? progress).map
        (·.root) = some (progress.root ++ sections.map Section.table) := by
  induction sections generalizing progress with
  | nil =>
      rw [List.map_nil, List.append_nil]
      rfl
  | cons written sections ih =>
      have fresh : written.name ∉ progress.root.map (·.1) := by
        intro listed
        exact (List.nodup_append.1 distinct).2.2 _ listed _ List.mem_cons_self rfl
      have first := foldlM_section (distinctKeys written List.mem_cons_self) fresh
      have later := ih (fun other listed => distinctKeys other (List.mem_cons_of_mem _ listed))
        ⟨[written.name], progress.root ++ [written.table]⟩ (by
          rw [List.map_append, List.append_assoc]
          exact distinct)
      rw [List.append_assoc] at later
      rw [List.flatMap_cons, List.map_append, List.foldlM_append, first]
      exact later

/-- Sections with different names are read back as their tables. -/
theorem read?_of_spaced {sections : List Section} {text : String}
    (spaced : Spaced (sections.flatMap Section.lines) text.toList)
    (plain : ∀ written ∈ sections, written.Plain) (distinct : (sections.map (·.name)).Nodup) :
    read? text = some (sections.map Section.table) := by
  have lines : ∀ line ∈ sections.flatMap Section.lines, line.Plain := by
    intro line listed
    obtain ⟨written, inSections, inLines⟩ := List.mem_flatMap.1 listed
    exact Section.plain_of_mem_lines (plain written inSections) inLines
  rw [read?, statements?_of_spaced spaced lines, Option.bind_some, entriesOf?]
  exact root_foldlM_sections sections (fun written listed => (plain written listed).keys_distinct)
    {} distinct

end SqlLint.Toml
