import SafactoryServer.Filename
import SafactoryServer.Lines

/-! The records of a JSONL dataset, one on each line that is not blank, and the datasets of which
`_read_dataset` counts just these. -/

namespace SafactoryServer

open Effect FileTree FileTree.Tree FileTask Lines

/-- A line without the carriage return before its line feed. -/
def withoutReturn (line : List Char) : List Char :=
  if line.getLast? = some '\r' then line.dropLast else line

/-- All lines but the last end in a line feed. -/
def dropReturns : List (List Char) → List (List Char)
  | line :: next :: rest => withoutReturn line :: dropReturns (next :: rest)
  | lines => lines

/-- The lines of a JSONL text. -/
def jsonLines (text : String) : List (List Char) := dropReturns (text.toList.splitOn '\n')

namespace SharedFileManager

variable (m : SharedFileManager)

/-- The character is no white space. -/
def significant (c : Char) : Bool := !m.python.toUnicode.space c

/-- `json.loads` makes a dict of the line. -/
def isObject (line : List Char) : Bool :=
  ((m.python.loads (String.ofList line)).toOption.bind Value.asDict?).isSome

/-- The lines that are not blank. -/
def recordLines (text : String) : List (List Char) :=
  (jsonLines text).filter (·.any m.significant)

/-- What `str.splitlines` makes of a line, without what is blank. -/
def pieces (line : List Char) : List (List Char) := parts endsLine m.significant line

/-- The number of records, if there are some and all are objects. -/
def countObjects (records : List (List Char)) : Option Nat :=
  if records.isEmpty || !records.all m.isObject then none else some records.length

/-- The records of a JSONL dataset: an object on every line that is not blank, and at least one. -/
def jsonlRecords (content : Bytes) : Option Nat := do
  m.countObjects (m.recordLines (← m.decode content))

/-- Every record is an object on a line of its own that `str.splitlines` leaves whole; or some line
is no object, and some piece of a line neither. -/
def LinesAgree (text : String) : Prop :=
  (∀ line ∈ m.recordLines text, m.isObject line = true ∧
    ∃ piece, m.pieces line = [piece] ∧ m.isObject piece = true) ∨
  (∃ line ∈ m.recordLines text, m.isObject line = false) ∧
    ∃ line ∈ m.recordLines text, ∃ piece ∈ m.pieces line, m.isObject piece = false

end SharedFileManager

section

variable {m : SharedFileManager} {text : String} {content : Bytes}

theorem strip_eq_empty_iff {u : Unicode} {line : List Char} :
    u.strip (String.ofList line) = "" ↔ line.any (fun c => !u.space c) = false := by
  rw [Unicode.strip, String.toList_ofList, String.ofList_eq_empty_iff, List.reverse_eq_nil_iff,
    List.dropWhile_eq_nil_iff, List.any_eq_false]
  constructor
  · intro h c hc hspace
    have hne : line.dropWhile u.space ≠ [] := by
      rw [ne_eq, List.dropWhile_eq_nil_iff]
      exact fun hall => by simp [hall c hc] at hspace
    have hhead := h _ (List.mem_reverse.mpr (List.head_mem hne))
    have hnot := List.head_dropWhile_not u.space hne
    rw [hhead] at hnot
    cases hnot
  · intro h c hc
    have hspace := h c (List.dropWhile_subset u.space (List.mem_reverse.mp hc))
    simpa using hspace

theorem endsLine_space (h : ∀ c, endsLine c = true → m.python.isspace c = true) {c : Char}
    (hc : endsLine c = true) : m.significant c = false := by
  have hspace : m.python.toUnicode.space c = true := by
    unfold Unicode.space
    split
    · next hascii =>
      have hval : c.val.toNat = c.toNat := rfl
      simp only [Unicode.isAscii, decide_eq_true_eq, UInt32.lt_iff_toNat_lt, hval,
        UInt32.reduceToNat] at hascii
      simp only [endsLine, List.contains_iff_mem, List.mem_cons, List.not_mem_nil, or_false] at hc
      simp only [Bool.or_eq_true, Bool.and_eq_true, decide_eq_true_eq, UInt32.le_iff_toNat_le,
        hval, UInt32.reduceToNat]
      omega
    · exact h c hc
  rw [SharedFileManager.significant, hspace]
  rfl

theorem parts_dropReturns (q : Char → Bool) (lines : List (List Char)) :
    (dropReturns lines).flatMap (parts endsLine q) = lines.flatMap (parts endsLine q) := by
  fun_induction dropReturns lines with
  | case1 line next rest ih =>
    rw [List.flatMap_cons, ih, List.flatMap_cons]
    refine congrArg (· ++ _) ?_
    unfold withoutReturn
    split
    · next hlast =>
      have hline : line = line.dropLast ++ ['\r'] :=
        (List.dropLast_append_getLast? _ hlast).symm
      rw [hline, List.dropLast_concat]
      exact (parts_concat (by decide) _).symm
    · rfl
  | case2 lines => rfl

/-- The loop of `_read_dataset` returns if every line is an object. -/
theorem checkRecords_ok_iff (lines : List (List Char)) :
    checkRecords m.python (lines.map String.ofList) = .ok () ↔ lines.all m.isObject = true := by
  induction lines with
  | nil => exact iff_of_true rfl rfl
  | cons line rest ih =>
    rw [List.map_cons, List.all_cons, checkRecords, SharedFileManager.isObject]
    cases m.python.loads (String.ofList line) with
    | error x =>
      refine iff_of_false (fun h => ?_) (by simp [Except.toOption])
      cases h
    | ok value =>
      rw [ok_bind]
      cases hvalue : value.asDict? with
      | none =>
        refine iff_of_false (fun h => ?_) (by simp [Except.toOption, hvalue])
        cases h
      | some entries =>
        refine (iff_of_eq ?_).trans (ih.trans (iff_of_eq ?_))
        · rfl
        · simp [Except.toOption, hvalue]

/-- The records that the code counts are the pieces of the record lines. -/
theorem datasetRecords_eq (h : ∀ c, endsLine c = true → m.python.isspace c = true) :
    (m.datasetRecords content).toOption =
      (m.decode content).bind fun text =>
        m.countObjects ((m.recordLines text).flatMap m.pieces) := by
  have hpieces : ∀ text : String,
      ((text.toList.splitOnP endsLine).map String.ofList).filter
        (fun line => m.python.toUnicode.strip line ≠ "") =
      ((m.recordLines text).flatMap m.pieces).map String.ofList := by
    intro text
    have hblank : (fun line => decide (m.python.toUnicode.strip line ≠ "")) ∘ String.ofList =
        (·.any m.significant) := by
      funext line
      rw [Function.comp_apply, Bool.eq_iff_iff, decide_eq_true_iff, ne_eq, strip_eq_empty_iff,
        Bool.not_eq_false]
      rfl
    have hkept : ((text.toList.splitOnP endsLine).filter (·.any m.significant)) =
        (m.recordLines text).flatMap m.pieces := by
      rw [← parts, parts_splitOn (a := '\n') (by decide), ← parts_dropReturns]
      exact flatMap_parts (fun c => endsLine_space h) _
    rw [List.filter_map, hblank, hkept]
  unfold SharedFileManager.datasetRecords
  cases m.decode content with
  | none => rfl
  | some text =>
    dsimp only
    rw [Option.bind_some, hpieces, List.isEmpty_map, List.length_map,
      SharedFileManager.countObjects]
    have hcheck := checkRecords_ok_iff (m := m) ((m.recordLines text).flatMap m.pieces)
    cases List.isEmpty _ with
    | true => rfl
    | false =>
      cases hrun : checkRecords m.python
          (((m.recordLines text).flatMap m.pieces).map String.ofList) with
      | error x =>
        have hrefused : ¬ checkRecords m.python
            (((m.recordLines text).flatMap m.pieces).map String.ofList) = .ok () := by
          rw [hrun]
          rintro ⟨⟩
        rw [Bool.eq_false_iff.mpr (hcheck.not.mp hrefused)]
        rfl
      | ok =>
        rw [hcheck.mp hrun]
        rfl

theorem countObjects_pos {records : List (List Char)} (hne : records ≠ [])
    (hall : ∀ record ∈ records, m.isObject record = true) :
    m.countObjects records = some records.length := by
  rw [SharedFileManager.countObjects, List.all_eq_true.mpr hall, if_neg (by simpa using hne)]

theorem countObjects_neg {records : List (List Char)}
    (h : ∃ record ∈ records, m.isObject record = false) : m.countObjects records = none := by
  rw [SharedFileManager.countObjects, List.all_eq_false.mpr (by simpa using h), if_pos (by simp)]

theorem pieces_ne_nil (h : ∀ c, endsLine c = true → m.python.isspace c = true)
    {line : List Char} (hline : line ∈ m.recordLines text) : m.pieces line ≠ [] := by
  rw [ne_eq, SharedFileManager.pieces, parts_eq_nil_iff fun c => endsLine_space h,
    (List.mem_filter.mp hline).2]
  decide

theorem linesAgree_iff
    (hpieces : ∀ line ∈ m.recordLines text, ∀ piece ∈ m.pieces line, m.isObject piece = true) :
    m.LinesAgree text ↔ ∀ line ∈ m.recordLines text,
      m.isObject line = true ∧ (m.pieces line).length = 1 := by
  constructor
  · rintro (h | ⟨-, line, hline, piece, hpiece, hfalse⟩) line' hline'
    · obtain ⟨hobject, piece, hone, -⟩ := h line' hline'
      exact ⟨hobject, by rw [hone, List.length_singleton]⟩
    · rw [hpieces line hline piece hpiece] at hfalse
      cases hfalse
  · refine fun h => .inl fun line hline => ⟨(h line hline).1, ?_⟩
    obtain ⟨piece, hone⟩ := List.length_eq_one_iff.mp (h line hline).2
    exact ⟨piece, hone, hpieces line hline piece (hone ▸ List.mem_singleton_self piece)⟩

/-- The counts agree if and only if the lines do. -/
theorem counts_agree_iff (h : ∀ c, endsLine c = true → m.python.isspace c = true) :
    m.countObjects ((m.recordLines text).flatMap m.pieces) =
      m.countObjects (m.recordLines text) ↔ m.LinesAgree text := by
  have hne : ∀ line ∈ m.recordLines text, m.pieces line ≠ [] := fun line => pieces_ne_nil h
  have hsome : m.recordLines text ≠ [] → (m.recordLines text).flatMap m.pieces ≠ [] := by
    intro hlines hnil
    obtain ⟨line, hline⟩ := List.exists_mem_of_ne_nil _ hlines
    exact hne line hline (List.flatMap_eq_nil_iff.mp hnil line hline)
  by_cases hpieces : ∀ line ∈ m.recordLines text, ∀ piece ∈ m.pieces line, m.isObject piece = true
  · have hall : ∀ piece ∈ (m.recordLines text).flatMap m.pieces, m.isObject piece = true := by
      intro piece hpiece
      obtain ⟨line, hline, hpiece⟩ := List.mem_flatMap.mp hpiece
      exact hpieces line hline piece hpiece
    have hagree := linesAgree_iff hpieces
    by_cases hnil : m.recordLines text = []
    · rw [hagree, hnil]
      exact iff_of_true rfl nofun
    rw [hagree, countObjects_pos (hsome hnil) hall]
    by_cases hlines : ∀ line ∈ m.recordLines text, m.isObject line = true
    · rw [countObjects_pos hnil hlines, Option.some_inj, length_flatMap_eq_iff hne]
      exact forall₂_congr fun line hline => (and_iff_right (hlines line hline)).symm
    · rw [countObjects_neg (by simpa using hlines)]
      exact iff_of_false nofun fun h => hlines fun line hline => (h line hline).1
  · have hpiece : ∃ line ∈ m.recordLines text, ∃ piece ∈ m.pieces line,
        m.isObject piece = false := by simpa using hpieces
    obtain ⟨line, hline, piece, hmem, hfalse⟩ := hpiece
    rw [countObjects_neg ⟨piece, List.mem_flatMap.mpr ⟨line, hline, hmem⟩, hfalse⟩]
    by_cases hlines : ∀ line ∈ m.recordLines text, m.isObject line = true
    · rw [countObjects_pos (List.ne_nil_of_mem hline) hlines]
      refine iff_of_false nofun ?_
      rintro (h | ⟨⟨other, hother, hno⟩, -⟩)
      · obtain ⟨-, only, hone, hobject⟩ := h line hline
        rw [hone] at hmem
        rw [List.mem_singleton.mp hmem, hobject] at hfalse
        cases hfalse
      · rw [hlines other hother] at hno
        cases hno
    · have hno : ∃ line ∈ m.recordLines text, m.isObject line = false := by simpa using hlines
      rw [countObjects_neg hno]
      exact iff_of_true rfl (.inr ⟨hno, line, hline, piece, hmem, hfalse⟩)

/-- The counts agree if and only if the lines do. -/
theorem records_agree_iff (h : ∀ c, endsLine c = true → m.python.isspace c = true) :
    (m.datasetRecords content).toOption = m.jsonlRecords content ↔
      ∀ text, m.decode content = some text → m.LinesAgree text := by
  rw [datasetRecords_eq h, SharedFileManager.jsonlRecords]
  cases hdecode : m.decode content with
  | none => exact iff_of_true rfl nofun
  | some text =>
    refine (counts_agree_iff h).trans ⟨fun hagree text' heq => ?_, fun hagree => hagree text rfl⟩
    cases heq
    exact hagree

theorem checkRecords_error {py : Interpreter} {lines : List String} {x : PyExc}
    (h : checkRecords py lines = .error x) :
    x = .valueError ∨ ∃ line, py.loads line = .error x := by
  induction lines with
  | nil => cases h
  | cons line rest ih =>
    rw [checkRecords] at h
    cases hline : py.loads line with
    | error y =>
      rw [hline] at h
      cases h
      exact .inr ⟨line, hline⟩
    | ok value =>
      rw [hline, ok_bind] at h
      split at h
      · cases h
        exact .inl rfl
      · exact ih h

/-- An exception for the dataset that no `except` clause of `_read_dataset` catches is one of
`json.loads`. -/
theorem datasetRecords_error {x : PyExc} (h : m.datasetRecords content = .error x) :
    x = .valueError ∨ ∃ line, m.python.loads line = .error x := by
  unfold SharedFileManager.datasetRecords at h
  cases hdecode : m.decode content with
  | none =>
    rw [hdecode] at h
    cases h
    exact .inl rfl
  | some text =>
    rw [hdecode] at h
    dsimp only at h
    split at h
    · cases h
      exact .inl rfl
    · cases hcheck : checkRecords m.python _ with
      | error y =>
        rw [hcheck] at h
        cases h
        exact checkRecords_error hcheck
      | ok =>
        rw [hcheck] at h
        cases h

/-- What `_read_dataset` raises. -/
def refusal : PyExc → BindExc
  | .valueError => .fileBinding "dataset.jsonl is unavailable or invalid"
  | x => .fault (.other x)

/-- What `_read_dataset` makes of a file that can be read. -/
theorem readDataset_run {disk : Disk} {source : String} {s : Files}
    (hread : disk.readBytes source = .ok content) :
    Task.run disk.answer (m.readDataset source) s =
      (((m.datasetRecords content).mapError refusal).map fun records => (content, records), s) := by
  have hask : ∀ {β : Type} (f : Except Fault Bytes → FileTask β),
      Task.run disk.answer (Task.ask (FileOp.readBytes source) >>= f) s =
        Task.run disk.answer (f (.ok content)) s :=
    fun f => hread ▸ rfl
  unfold SharedFileManager.readDataset
  rw [hask]
  dsimp only
  cases m.datasetRecords content with
  | ok records => rfl
  | error x => cases x <;> rfl

/-- The counts agree on every text whose record lines hold no other separator. -/
theorem linesAgree_of_plain
    (h : ∀ line ∈ m.recordLines text, ∀ c ∈ line, endsLine c = false) : m.LinesAgree text := by
  have hone : ∀ line ∈ m.recordLines text, m.pieces line = [line] := fun line hline =>
    parts_self (List.mem_filter.mp hline).2 (h line hline)
  by_cases hlines : ∀ line ∈ m.recordLines text, m.isObject line = true
  · exact .inl fun line hline => ⟨hlines line hline, line, hone line hline, hlines line hline⟩
  · have hno : ∃ line ∈ m.recordLines text, m.isObject line = false := by simpa using hlines
    obtain ⟨line, hline, hfalse⟩ := hno
    exact .inr ⟨⟨line, hline, hfalse⟩, line, hline, line, hone line hline ▸ List.mem_singleton_self
      line, hfalse⟩

end

/-- The exception for an invalid dataset, or one of `json.loads` that is no `ValueError`. -/
def Refusal (m : SharedFileManager) (x : BindExc) : Prop :=
  x = .fileBinding "dataset.jsonl is unavailable or invalid" ∨
    ∃ line y, m.python.loads line = .error y ∧ y ≠ .valueError ∧ x = .fault (.other y)

/-- `_read_dataset` accepts the JSONL datasets; it returns what it has read, and the number of its
records. -/
def ReadsRecords (m : SharedFileManager) (content : Bytes) : Prop :=
  ∀ (disk : Disk) (source : String) (s : Files), disk.readBytes source = .ok content →
    match m.jsonlRecords content with
    | some records => Task.run disk.answer (m.readDataset source) s = (.ok (content, records), s)
    | none => ∃ x, Task.run disk.answer (m.readDataset source) s = (.error x, s) ∧ Refusal m x

/-- A binding that is published with this dataset counts its records. -/
def CountsRecords (m : SharedFileManager) (content : Bytes) : Prop :=
  ∀ (W : Surroundings) (jobId rangeId : String) (s s' : Files) (b : JobFileBinding),
    s.under (m.root ++ [jobId]) = absent →
    Exec (storage m.root W jobId) (m.bind jobId rangeId) s (.ok b) s' →
    ∃ group, b.groups = [group] ∧
      (s' (m.root ++ [jobId] ++ ["groups", group.envName, "dataset.jsonl"]) =
          some (.file (.bytes content)) →
        ∃ records, m.jsonlRecords content = some records ∧ group.datasetRecords = records ∧
          b.totalEpisodes = records * group.envNum)

/-- A dataset is read as JSONL if and only if `str.splitlines` agrees with its lines. -/
theorem dataset_read_iff {m : SharedFileManager} {content : Bytes}
    (hspace : ∀ c, endsLine c = true → m.python.isspace c = true) :
    ReadsRecords m content ∧ CountsRecords m content ↔
      ∀ text, m.decode content = some text → m.LinesAgree text := by
  rw [← records_agree_iff hspace]
  constructor
  · rintro ⟨hreads, -⟩
    have hrun := hreads { sampleDisk with readBytes := fun _ => .ok content } "" absent rfl
    rw [readDataset_run rfl] at hrun
    cases hlines : m.jsonlRecords content with
    | some records =>
      rw [hlines] at hrun
      cases hcode : m.datasetRecords content with
      | error x =>
        rw [hcode] at hrun
        cases hrun
      | ok n =>
        rw [hcode] at hrun
        cases hrun
        rfl
    | none =>
      rw [hlines] at hrun
      obtain ⟨x, hrun, -⟩ := hrun
      cases hcode : m.datasetRecords content with
      | error x => rfl
      | ok n =>
        rw [hcode] at hrun
        cases hrun
  · intro hagree
    refine ⟨fun disk source s hread => ?_, ?_⟩
    · rw [readDataset_run hread, ← hagree]
      cases hcode : m.datasetRecords content with
      | ok records => rfl
      | error x =>
        refine ⟨refusal x, rfl, ?_⟩
        by_cases hx : x = .valueError
        · exact .inl (hx ▸ rfl)
        · obtain ⟨line, hline⟩ := (datasetRecords_error hcode).resolve_left hx
          refine .inr ⟨line, x, hline, hx, ?_⟩
          cases x with
          | valueError => exact absurd rfl hx
          | _ => rfl
    intro W jobId rangeId s s' b habsent hexec
    obtain ⟨hsafe, _, _, _, _, _, hrendering⟩ := bound_rendering habsent hexec
    have hdescribes := hrendering.describes hsafe
    obtain ⟨_, _, _, _, group, -, -, -, -, hgroups, hgroup⟩ := hdescribes.groups
    refine ⟨group, hgroups, fun hfile => ?_⟩
    obtain ⟨data, records, hdata, -, hrecords, hcount⟩ := hgroup.records
    obtain rfl : content = data := by
      have heq := hfile.symm.trans hdata
      simpa using heq
    refine ⟨records, hagree ▸ congrArg Except.toOption hrecords, hcount, ?_⟩
    rw [hdescribes.total, hgroups, ← hcount]
    simp [episodes]

/-- A storage whose interpreter knows one line, and all separators as white space. -/
def oneLineManager (line : String) (value : Value) (content : Bytes) : SharedFileManager :=
  { sampleManager with
    python :=
      { plainPython with
        isspace := endsLine
        loads := fun text => if text ≠ "" ∧ text = line then .ok value else .error .valueError
        loads_empty := if_neg fun h => h.1 rfl }
    decode := fun data => if data = content then some (line ++ "\n") else none }

theorem dataset_read_empty :
    let m := oneLineManager "\x7b\x7d" (.dict []) sampleDataset
    ReadsRecords m sampleDataset ∧ CountsRecords m sampleDataset := by
  intro m
  refine (dataset_read_iff fun c hc => hc).mpr fun text htext => linesAgree_of_plain ?_
  have hdecode : m.decode sampleDataset = some ("\x7b\x7d" ++ "\n") := rfl
  rw [hdecode] at htext
  cases htext
  have hplain : (m.recordLines ("\x7b\x7d" ++ "\n")).all (·.all fun c => !endsLine c) = true := by
    decide +kernel
  intro line hline c hc
  have hc := List.all_eq_true.mp (List.all_eq_true.mp hplain line hline) c hc
  rwa [Bool.not_eq_true'] at hc

/-- The bytes of a record with a line separator in a string. -/
def separatorDataset : Bytes :=
  [0x7B, 0x22, 0x61, 0x22, 0x3A, 0x22, 0xE2, 0x80, 0xA8, 0x22, 0x7D, 0x0A]

/-- A record with an unescaped U+2028 is refused. -/
theorem separator_refused :
    let m := oneLineManager "\x7b\"a\":\"\u2028\"\x7d" (.dict [("a", .str "\u2028")])
      separatorDataset
    m.jsonlRecords separatorDataset = some 1 ∧
      m.datasetRecords separatorDataset = .error .valueError ∧
      ¬ ReadsRecords m separatorDataset := by
  intro m
  have hlines : m.jsonlRecords separatorDataset = some 1 := by decide +kernel
  have hcode : m.datasetRecords separatorDataset = .error .valueError := by
    have hnone : (m.datasetRecords separatorDataset).toOption = none := by decide +kernel
    cases hcode : m.datasetRecords separatorDataset with
    | ok n =>
      rw [hcode] at hnone
      cases hnone
    | error x =>
      rcases datasetRecords_error hcode with rfl | ⟨line, hline⟩
      · rfl
      · change (if _ then _ else _) = _ at hline
        split at hline <;> cases hline
        rfl
  refine ⟨hlines, hcode, fun h => ?_⟩
  have hrun := h { sampleDisk with readBytes := fun _ => .ok separatorDataset } "" absent rfl
  rw [readDataset_run rfl, hlines, hcode] at hrun
  cases hrun

end SafactoryServer
