import SerialLine.Proofs.Toml.Values

/-!
# SerialLine.Proofs.Toml.Documents — a document is read back from the way it is written

`read?_written`: reading a written document puts its sections into an empty one, one after
another (`Document.addSection`), whatever text and numbers stand in them. The names of keys and
headers must be bare, since they are written without quotes.

Reading goes entry by entry (`Document.Reads`), and the fuel never runs out, because every entry
takes at least one character.
-/

namespace SerialLine.Toml

/-- Whether a name can be written without quotes. -/
def isBareName (name : String) : Bool := !name.toList.isEmpty && name.toList.all isBare

/-- Whether a section can be written: all its names are bare, and the header is no longer than
a key may be. -/
def Section.isPlain (s : Section) : Bool :=
  !s.header.isEmpty && s.header.length ≤ maxDepth && s.header.all isBareName &&
    s.entries.all (isBareName ·.1)

namespace Document

/-- A document with one more key in the table that was opened last. -/
def addEntry (d : Document) (e : String × Scalar) : Option Document := do
  let members ← d.members.insertUnder? d.header [] e.1 e.2.value
  return { d with members }

/-- A document with one more section. -/
def addSection (d : Document) (s : Section) : Option Document := do
  let name ← s.header.getLast?
  let d ← d.opened false s.header.dropLast name
  s.entries.foldlM addEntry d

end Document

/-! ## Names -/

section

variable {c : Char} {cs : List Char}

theorem ne_of_isBare {e : Char} (hc : isBare c = true) (he : isBare e = false) : c ≠ e := by
  rintro rfl
  simp [hc] at he

theorem isBlank_of_isBare (hc : isBare c = true) : isBlank c = false := by
  simp [isBlank, ne_of_isBare hc (e := ' ') rfl, ne_of_isBare hc (e := '\t') rfl]

theorem exists_of_isBareName {name : String} (h : isBareName name = true) :
    ∃ c cs, name.toList = c :: cs ∧ isBare c = true ∧ ∀ d ∈ cs, isBare d = true := by
  simp only [isBareName, Bool.and_eq_true, Bool.not_eq_true', List.all_eq_true] at h
  obtain ⟨hne, hall⟩ := h
  cases hname : name.toList with
  | nil => simp [hname] at hne
  | cons c cs => exact ⟨c, cs, rfl, List.forall_mem_cons.mp (hname ▸ hall)⟩

end

/-- A header starts with a character of its first name. -/
theorem headerNames_cons {names : List String} {last : String} (hlast : names.getLast? = some last)
    (hbare : ∀ name ∈ names, isBareName name = true) :
    ∃ c cs, headerNames names = c :: cs ∧ isBare c = true := by
  cases names with
  | nil => cases hlast
  | cons name names =>
    obtain ⟨c, cs, hname, hfirst, -⟩ := exists_of_isBareName (hbare name List.mem_cons_self)
    cases names with
    | nil => exact ⟨c, cs, by simp [headerNames, hname], hfirst⟩
    | cons next names => exact ⟨c, _, by simp [headerNames, hname]; rfl, hfirst⟩

section

variable {d : Char} {after : List Char} (hd : isBare d = false)

theorem skipBlanks_name {name : String} (h : isBareName name = true) :
    skipBlanks (name.toList ++ after) = name.toList ++ after := by
  obtain ⟨c, cs, hname, hfirst, -⟩ := exists_of_isBareName h
  rw [hname, List.cons_append, skipBlanks_cons (isBlank_of_isBare hfirst)]

include hd

/-- A bare name ends where a character comes that is not. -/
theorem readName_bare {name : String} (h : isBareName name = true) :
    readName (name.toList ++ d :: after) = some (name, d :: after) := by
  obtain ⟨c, cs, hname, hfirst, hmore⟩ := exists_of_isBareName h
  have hall : ∀ e ∈ c :: cs, isBare e = true := List.forall_mem_cons.mpr ⟨hfirst, hmore⟩
  have hquote : ¬(c = '"' || c = '\'') = true := by
    simp [ne_of_isBare hfirst (e := '"') rfl, ne_of_isBare hfirst (e := '\'') rfl]
  have htake : (c :: cs ++ d :: after).takeWhile isBare = c :: cs := by
    rw [List.takeWhile_append_of_pos hall, List.takeWhile_cons_of_neg (by simp [hd]),
      List.append_nil]
  have hdrop : (c :: cs ++ d :: after).dropWhile isBare = d :: after := by
    rw [List.dropWhile_append_of_pos hall, List.dropWhile_cons_of_neg (by simp [hd])]
  rw [hname, List.cons_append, readName, if_neg hquote, if_pos hfirst, ← List.cons_append, htake,
    hdrop, ← hname, String.ofList_toList]

/-- Names with dots between them are read up to what ends the last one. -/
theorem readNames_headerNames {left : List Char} (hleft : skipBlanks (d :: after) = left)
    (hdot : left.head? ≠ some '.') {names : List String} (hne : names ≠ [])
    (hbare : ∀ name ∈ names, isBareName name = true) {fuel : Nat} (hfuel : names.length ≤ fuel) :
    readNames fuel (headerNames names ++ d :: after) = some (names, left) := by
  -- on the names, each of which takes one unit of fuel
  induction names generalizing fuel with
  | nil => exact absurd rfl hne
  | cons name names ih =>
    obtain ⟨hname, hmore⟩ := List.forall_mem_cons.mp hbare
    obtain ⟨fuel, rfl⟩ : ∃ more, fuel = more + 1 := ⟨fuel - 1, by simp at hfuel; omega⟩
    cases names with
    | nil =>
      have hlast : ∀ rest, left ≠ '.' :: rest := by
        rintro rest rfl
        exact hdot rfl
      simp only [headerNames, List.map_cons, List.map_nil, List.intersperse_singleton,
        List.flatten_cons, List.flatten_nil, List.append_nil]
      rw [readNames, skipBlanks_name hname, readName_bare hd hname]
      simp only [Option.bind_eq_bind, Option.bind_some, hleft]
      rfl
    | cons next names =>
      have hrest := ih (by simp) hmore (by simpa using hfuel)
      have hdots : headerNames (name :: next :: names) =
          name.toList ++ '.' :: headerNames (next :: names) := by
        simp [headerNames]
      rw [hdots, List.append_assoc, List.cons_append, readNames, skipBlanks_name hname,
        readName_bare rfl hname]
      simp only [Option.bind_eq_bind, Option.bind_some, skipBlanks_cons (c := '.') rfl, hrest]
      rfl

theorem readKey_headerNames {left : List Char} (hleft : skipBlanks (d :: after) = left)
    (hdot : left.head? ≠ some '.') {names : List String} {last : String}
    (hlast : names.getLast? = some last) (hbare : ∀ name ∈ names, isBareName name = true)
    (hdepth : names.length ≤ maxDepth) :
    readKey (headerNames names ++ d :: after) = some ((names.dropLast, last), left) := by
  have hne : names ≠ [] := by
    rintro rfl
    cases hlast
  simp [readKey, readNames_headerNames hd hleft hdot hne hbare hdepth, hlast]

theorem readKey_name {left : List Char} (hleft : skipBlanks (d :: after) = left)
    (hdot : left.head? ≠ some '.') {name : String} (hname : isBareName name = true) :
    readKey (name.toList ++ d :: after) = some (([], name), left) := by
  have hkey : readKey (headerNames [name] ++ d :: after) = some (([], name), left) :=
    readKey_headerNames hd hleft hdot rfl (by simpa using hname) (Nat.succ_le_succ (Nat.zero_le _))
  simpa [headerNames] using hkey

end

/-! ## Entries -/

theorem lineRest?_newline (rest : List Char) : lineRest? ('\n' :: rest) = some rest := rfl

namespace Document

section

variable {d d' : Document} {c : Char} {cs rest : List Char}

/-- What starts with no bracket is a key with its value. -/
theorem readEntry_key (hc : c ≠ '[') :
    d.readEntry (c :: cs) = (do
      let (((path, name), v), rest) ← readPair (readValue maxDepth) (c :: cs)
      let members ← d.members.insertUnder? d.header path name v
      return ({ d with members }, ← lineRest? rest)) := by
  rw [readEntry.eq_def]
  simp [hc]

/-- What starts with one bracket is a header. -/
theorem readEntry_header (hc : c ≠ '[') :
    d.readEntry ('[' :: c :: cs) = (do
      let ((path, name), rest) ← readKey (c :: cs)
      let rest ← after? [']'] rest
      return (← d.opened false path name, ← lineRest? rest)) := by
  rw [readEntry.eq_def]
  simp [hc]

/-- The line of a key puts it into the document. -/
theorem readEntry_entryLine {e : String × Scalar} (hname : isBareName e.1 = true)
    (hvalue : e.2.isWritable = true) :
    d.readEntry (entryLine e ++ rest) = (d.addEntry e).map (·, rest) := by
  have hkey : readKey (e.1.toList ++ ' ' :: '=' :: ' ' :: (e.2.written ++ '\n' :: rest)) =
      some (([], e.1), '=' :: ' ' :: (e.2.written ++ '\n' :: rest)) :=
    readKey_name rfl (by rfl) (by simp) hname
  have hblanks (cs : List Char) : skipBlanks (' ' :: cs) = skipBlanks cs := rfl
  have hpair : readPair (readValue maxDepth)
      (e.1.toList ++ ' ' :: '=' :: ' ' :: (e.2.written ++ '\n' :: rest)) =
        some ((([], e.1), e.2.value), '\n' :: rest) := by
    simp [readPair, hkey, after?, hblanks, skipBlanks_written, readValue_written maxDepth hvalue]
  have hline : entryLine e ++ rest =
      e.1.toList ++ ' ' :: '=' :: ' ' :: (e.2.written ++ '\n' :: rest) := by
    simp [entryLine]
  obtain ⟨c, cs, hchars, hfirst, -⟩ := exists_of_isBareName hname
  rw [hline]
  rw [hchars, List.cons_append] at hpair ⊢
  rw [readEntry_key (ne_of_isBare hfirst rfl), hpair]
  simp only [Option.bind_eq_bind, Option.bind_some, lineRest?_newline, addEntry]
  cases d.members.insertUnder? d.header [] e.1 e.2.value <;> rfl

/-- The line of a header opens a table. -/
theorem readEntry_headerLine {names : List String} {last : String}
    (hlast : names.getLast? = some last) (hbare : ∀ name ∈ names, isBareName name = true)
    (hdepth : names.length ≤ maxDepth) :
    d.readEntry ('[' :: headerNames names ++ [']', '\n'] ++ rest) =
      (d.opened false names.dropLast last).map (·, rest) := by
  have hkey : readKey (headerNames names ++ ']' :: '\n' :: rest) =
      some ((names.dropLast, last), ']' :: '\n' :: rest) :=
    readKey_headerNames rfl (by rfl) (by simp) hlast hbare hdepth
  obtain ⟨c, cs, hchars, hfirst⟩ := headerNames_cons hlast hbare
  have hline : '[' :: headerNames names ++ [']', '\n'] ++ rest =
      '[' :: c :: (cs ++ ']' :: '\n' :: rest) := by
    simp [hchars]
  rw [hchars, List.cons_append] at hkey
  rw [hline, readEntry_header (ne_of_isBare hfirst rfl), hkey]
  simp only [after?, lineRest?_newline, Option.bind_eq_bind, Option.bind_some, if_pos]
  cases d.opened false names.dropLast last <;> rfl

end

/-! ## Documents -/

/-- Reading a text goes on from one document to another. -/
def Reads (d : Document) (cs : List Char) (d' : Document) : Prop :=
  ∀ fuel, cs.length < fuel → readEntries fuel d cs = some d'

section

variable {d d₁ d' : Document} {c : Char} {cs rest : List Char}

theorem Reads.nil : Reads d [] d := by
  intro fuel hfuel
  cases fuel with
  | zero => cases hfuel
  | succ fuel => rfl

/-- What starts with a bracket or a name is no layout. -/
theorem skipLayout_cons (hblank : isBlank c = false) (hcomment : c ≠ '#') (hline : c ≠ '\n')
    (hreturn : c ≠ '\r') : skipLayout (c :: cs) = c :: cs := by
  have hskip : skipComment (skipBlanks (c :: cs)) = c :: cs := by
    rw [skipBlanks_cons hblank]
    simp [skipComment, hcomment]
  rw [skipLayout, skipLayoutUpTo, hskip]
  simp only [Quoted.lineEnd?_cons hline hreturn]

theorem skipLayout_newline (cs : List Char) : skipLayout ('\n' :: cs) = skipLayout cs := rfl

/-- Reading passes over a line that is empty. -/
theorem Reads.newline (h : Reads d cs d') : Reads d ('\n' :: cs) d' := by
  intro fuel hfuel
  have hrest := h fuel (by simp at hfuel; omega)
  cases fuel with
  | zero => cases hfuel
  | succ fuel =>
    -- the layout before the next entry has the line in it, so it costs no fuel
    rw [readEntries, skipLayout_newline]
    rwa [readEntries] at hrest

/-- Reading goes on after an entry. -/
theorem Reads.entry (hstart : skipLayout (c :: cs) = c :: cs)
    (hentry : d.readEntry (c :: cs) = some (d₁, rest)) (hless : rest.length ≤ cs.length)
    (h : Reads d₁ rest d') : Reads d (c :: cs) d' := by
  intro fuel hfuel
  cases fuel with
  | zero => cases hfuel
  | succ fuel =>
    rw [readEntries, hstart]
    simp only [hentry, Option.bind_eq_bind, Option.bind_some]
    exact h fuel (by simp at hfuel; omega)

/-- Reading the lines of keys puts them into the table that is open. -/
theorem Reads.entryLines {es : List (String × Scalar)}
    (hnames : ∀ e ∈ es, isBareName e.1 = true) (hvalues : ∀ e ∈ es, e.2.isWritable = true)
    (hput : es.foldlM addEntry d = some d₁) (h : Reads d₁ rest d') :
    Reads d (es.flatMap entryLine ++ rest) d' := by
  induction es generalizing d with
  | nil =>
    cases hput
    exact h
  | cons e es ih =>
    obtain ⟨hname, hnames⟩ := List.forall_mem_cons.mp hnames
    obtain ⟨hvalue, hvalues⟩ := List.forall_mem_cons.mp hvalues
    obtain ⟨d₂, hfirst, hmore⟩ := Option.bind_eq_some_iff.mp hput
    have hentry : d.readEntry (entryLine e ++ (es.flatMap entryLine ++ rest)) = _ :=
      readEntry_entryLine hname hvalue
    obtain ⟨c, cs, hchars, hbare, -⟩ := exists_of_isBareName hname
    have hline : ∃ left, entryLine e = c :: (cs ++ left) := by simp [entryLine, hchars]
    obtain ⟨left, hline⟩ := hline
    rw [hfirst, hline, List.cons_append] at hentry
    rw [List.flatMap_cons, List.append_assoc, hline, List.cons_append]
    refine Reads.entry ?_ hentry ?_ (ih hnames hvalues hmore)
    · exact skipLayout_cons (isBlank_of_isBare hbare) (ne_of_isBare hbare rfl)
        (ne_of_isBare hbare rfl) (ne_of_isBare hbare rfl)
    · simp only [List.length_append]
      omega

/-- Reading the lines of a section puts it into the document. -/
theorem Reads.sectionLines {s : Section} (hplain : s.isPlain = true)
    (hvalues : ∀ e ∈ s.entries, e.2.isWritable = true) (hput : d.addSection s = some d₁)
    (h : Reads d₁ rest d') : Reads d (s.lines ++ rest) d' := by
  simp only [Section.isPlain, Bool.and_eq_true, decide_eq_true_eq, List.all_eq_true] at hplain
  obtain ⟨⟨⟨-, hdepth⟩, hheader⟩, hnames⟩ := hplain
  obtain ⟨last, hlast, hput⟩ := Option.bind_eq_some_iff.mp hput
  obtain ⟨d₂, hopen, hmore⟩ := Option.bind_eq_some_iff.mp hput
  have hentry : d.readEntry ('[' :: headerNames s.header ++ [']', '\n'] ++
      (s.entries.flatMap entryLine ++ rest)) = _ := readEntry_headerLine hlast hheader hdepth
  rw [hopen, List.cons_append, List.cons_append] at hentry
  rw [Section.lines, List.append_assoc, List.cons_append, List.cons_append]
  refine Reads.entry (skipLayout_cons rfl (by decide) (by decide) (by decide)) hentry ?_
    (Reads.entryLines hnames hvalues hmore h)
  simp only [List.length_append]
  omega

/-- Reading sections with empty lines between them puts one after the other into the document. -/
theorem Reads.sections {ss : List Section} (hplain : ∀ s ∈ ss, s.isPlain = true)
    (hvalues : ∀ s ∈ ss, ∀ e ∈ s.entries, e.2.isWritable = true)
    (hput : ss.foldlM addSection d = some d') :
    Reads d ((ss.map Section.lines).intersperse ['\n']).flatten d' := by
  induction ss generalizing d with
  | nil =>
    cases hput
    exact Reads.nil
  | cons s ss ih =>
    obtain ⟨hs, hplain⟩ := List.forall_mem_cons.mp hplain
    obtain ⟨hvalue, hvalues⟩ := List.forall_mem_cons.mp hvalues
    obtain ⟨d₁, hfirst, hmore⟩ := Option.bind_eq_some_iff.mp hput
    have hrest := ih hplain hvalues hmore
    cases ss with
    | nil => simpa using Reads.sectionLines hs hvalue hfirst hrest
    | cons t ts => simpa using Reads.sectionLines hs hvalue hfirst hrest.newline

end

/-- A written document reads as its sections, put into an empty document one by one. -/
theorem read?_written {ss : List Section} {text : String} {d : Document}
    (htext : written? ss = some text) (hplain : ∀ s ∈ ss, s.isPlain = true)
    (hput : ss.foldlM addSection {} = some d) : read? text = some d.members := by
  simp only [written?, Option.ite_none_right_eq_some, List.all_eq_true, Option.some.injEq] at htext
  obtain ⟨hvalues, rfl⟩ := htext
  have hreads := Reads.sections hplain hvalues hput
  have hmark : ∀ cs, ((ss.map Section.lines).intersperse ['\n']).flatten ≠ '\uFEFF' :: cs := by
    cases ss with
    | nil => simp
    | cons s ss => cases ss <;> simp [Section.lines]
  rw [read?, String.toList_ofList]
  split
  · next h => exact (hmark _ h).elim
  · simp only [hreads _ (Nat.lt_succ_self _), Option.bind_eq_bind, Option.bind_some]
    rfl

end Document

end SerialLine.Toml
