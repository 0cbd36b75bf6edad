import MenuOutline.Proofs.Dictionary.Blocks
import MenuOutline.Proofs.Manifest.Lists
import MenuOutline.Proofs.Menu.Dropped
import MenuOutline.Proofs.Report.Numbers
import MenuOutline.Proofs.Route.Table

-- The numbers in the reports. Main statement: the three reports of one site give the same numbers,
-- and these are the numbers of what stands in the menu file and in the files of the site.

namespace MenuOutline

namespace Menu

variable {o : ParseOptions} {sections : List Section} {m : Menu}

theorem Parses.length_files (h : Parses o sections m) :
    (pageFiles m.combined).length = (m.combined.entries.filter (·.hasFile)).length := by
  have hf := congrArg List.length <| map_pageFiles h.wellFormed_combined
  rwa [List.length_map, List.length_map] at hf

theorem Parses.readFile?_dictionaryFile (h : Parses o sections m) (l l' : Languages)
    (business : Option String) :
    DictionaryEntry.readFile? (dictionaryFile l (dictionary l' business m.combined)) =
      some ((dictionary l' business m.combined).map (DictionaryEntry.toBlock l)) := by
  have hc : ∀ e ∈ dictionary l' business m.combined, Code.FitsComment e.key.toList := by
    intro e he
    have hk : e.key ∈ m.combined.entries.flatMap DictionaryEntry.keysOf :=
      map_key_dictionary l' business m.combined ▸ List.mem_map_of_mem he
    have ⟨p, hp, hk⟩ := List.mem_flatMap.mp hk
    exact DictionaryEntry.fitsComment_of_isAlphanum <|
      DictionaryEntry.isAlphanum_of_mem_keysOf (h.wellFormed_combined p hp) hk
  have hb := bodyTokens?_dictionaryFile l hc
  have hr := DictionaryEntry.readBlocks_flatMap
    ((dictionary l' business m.combined).map (DictionaryEntry.toBlock l))
    DictionaryEntry.readBlocks_footer.left
  rw [List.append_nil] at hr
  exact DictionaryEntry.readFile?_eq_some hb hr

end Menu

namespace Report

-- The numbers that are told of a site.
structure Counts where
  pages : Nat
  files : Nat
  routes : Nat
  keys : Nat

namespace Counts

-- What follows the path of a menu file that was checked.
def checkLine (n : Counts) : String :=
  ": ok (" ++ count n.pages "page" "pages" ++ ", " ++ count n.files "file" "files" ++ ")"

-- The line before the warnings in the report of a menu.
def summaryLine (n : Counts) : String :=
  count n.pages "page" "pages" ++ ", " ++ count n.files "file" "files" ++ ", " ++
    count n.routes "route" "routes" ++ ", " ++
    count n.keys "dictionary key" "dictionary keys"

-- The lines of the files that are shared by the pages of a site. In the table of routes one leads
-- to the root of the site.
def fileLines (n : Counts) : List String :=
  ["_diccionario.php (" ++ count n.keys "key" "keys" ++ ")",
    "_urls.php (" ++ count (n.routes + 1) "route" "routes" ++ ")",
    "_menu.php (" ++ count n.pages "item" "items" ++ ")"]

-- The reports of a site give these numbers.
structure Given (n : Counts) (site : Site) : Prop where
  checked   : ∀ path secondary,
    (ofCheck path (.ok site.menu) secondary).head? = some (path ++ n.checkLine)
  parsed    : ∃ before, ofParse site =
    before ++ n.summaryLine :: warnings site.menu site.manifest.languages.secondary
  generated : ∀ output, (ofGenerate site output).take 4 = "menu.json" :: n.fileLines

-- So many lines, pages with a file, blocks of the dictionary and rows of the table of routes are
-- there.
structure Found (n : Counts) (content : String) (site : Site) : Prop where
  lines    : ∃ first ∈ (Section.split content).head?,
    let texts := first.filter (!Line.isIdle ·.text)
    n.pages + (texts.filter (·.number ∈ site.menu.droppedLines)).length = texts.length
  withFile : n.files = (site.menu.combined.entries.filter (·.file.isSome)).length
  files    : n.files = site.manifest.files.length
  blocks   : ∃ text blocks, site.files.lookup "_diccionario.php" = some text ∧
    DictionaryEntry.readFile? text = some blocks ∧ n.keys = blocks.length
  rows     : ∃ text rows, site.files.lookup "_urls.php" = some text ∧
    Route.readFile? text = some rows ∧ n.routes + 1 = rows.length

theorem numbers_checkLine (n : Counts) : numbers n.checkLine = [n.pages, n.files] := by
  simp only [checkLine, String.append_assoc]
  rw [numbers_words_append, numbers_count_append, numbers_words_append, numbers_count_append,
    numbers_words] <;> decide

theorem numbers_summaryLine (n : Counts) :
    numbers n.summaryLine = [n.pages, n.files, n.routes, n.keys] := by
  simp only [summaryLine, String.append_assoc]
  rw [numbers_count_append, numbers_words_append, numbers_count_append, numbers_words_append,
    numbers_count_append, numbers_words_append, numbers_count] <;> decide

theorem map_numbers_fileLines (n : Counts) :
    n.fileLines.map numbers = [[n.keys], [n.routes + 1], [n.pages]] := by
  simp only [fileLines, String.append_assoc, List.map_cons, List.map_nil]
  repeat rw [numbers_words_append, numbers_count_append, numbers_words]
  all_goals decide

def ofSite (site : Site) : Counts where
  pages  := site.menu.pageCount
  files  := site.manifest.files.length
  routes := site.manifest.routes.length
  keys   := site.manifest.dictionary.length

end Counts

variable {site : Site} {s : Settings} {content : String} {m : Menu}

theorem lookup_files (site : Site) :
    site.files.lookup "_diccionario.php" =
      some (dictionaryFile site.manifest.languages site.manifest.dictionary) ∧
    site.files.lookup "_urls.php" =
      some (routeFile site.manifest.languages site.manifest.routes) := by
  simp [Site.files, Site.manifestName, Site.dictionaryName, Site.routesName, List.lookup]

theorem ofGenerate_take (site : Site) (output : String) : (ofGenerate site output).take 4 =
    ["menu.json", "_diccionario.php (" ++ count site.manifest.dictionary.length "key" "keys" ++ ")",
      "_urls.php (" ++ count (site.manifest.routes.length + 1) "route" "routes" ++ ")",
      "_menu.php (" ++ count site.manifest.navigation.size "item" "items" ++ ")"] := by
  simp [ofGenerate, Site.files, fileLine, Site.manifestName, Site.dictionaryName, Site.routesName,
    Site.navigationName]

theorem exists_ofParse (site : Site) : ∃ before, ofParse site = before ++
    (Counts.ofSite site).summaryLine :: warnings site.menu site.manifest.languages.secondary := by
  refine ⟨["Pages"] ++ pageLines 0 1 site.menu.combined ++ languageLines site.manifest.languages ++
    projectLines site.manifest ++ [""], ?_⟩
  simp only [ofParse, List.append_assoc, List.cons_append, List.nil_append]
  rfl

theorem size_navigation (pages : Outline Page) : (navigation pages).size = pages.size :=
  Outline.size_eq_of_map_eq <|
    Outline.map_mapWithBelow (g := fun _ => ()) (h := fun _ => ()) (fun _ _ => rfl) pages

-- Each report takes its numbers from elsewhere: the pages are counted in the menu or in the
-- navigation, the files in the menu or in their list.
theorem given_ofSite (h : Menu.parse s.parseOptions content = .ok m) :
    (Counts.ofSite (.ofMenu s m)).Given (.ofMenu s m) where
  checked path secondary := by
    have ⟨hp, _⟩ := Menu.parse_eq_ok_iff.mp h
    have hf : fileCount m = (Site.ofMenu s m).manifest.files.length := by
      rw [fileCount, Outline.walk_eq_entries]
      exact hp.length_files.symm
    simp only [ofCheck, List.head?_cons, Site.ofMenu, Counts.checkLine, Counts.ofSite,
      String.append_assoc, hf]
  parsed := exists_ofParse _
  generated output := by
    have hn : (Site.ofMenu s m).manifest.navigation.size = m.pageCount :=
      (size_navigation _).trans m.pageCount_eq_size.symm
    rw [ofGenerate_take, hn]
    rfl

theorem found_ofSite (h : Menu.parse s.parseOptions content = .ok m) :
    (Counts.ofSite (.ofMenu s m)).Found content (.ofMenu s m) := by
  have ⟨hp, _⟩ := Menu.parse_eq_ok_iff.mp h
  have ⟨hd, hr⟩ := lookup_files (.ofMenu s m)
  refine ⟨Menu.pageCount_add_dropped h, hp.length_files, rfl, ?blocks, ?rows⟩
  case blocks =>
    have hb := hp.readFile?_dictionaryFile (Manifest.languagesOf m s) (Manifest.languagesOf m s)
      s.project.businessName
    exact ⟨_, _, hd, hb, (List.length_map _).symm⟩
  case rows =>
    exact ⟨_, _, hr, Route.readFile?_routeFile _ _, by simp [Counts.ofSite]⟩

-- The reports of a site agree on its numbers, which are those of what is there: every page has its
-- line in the first section, every file its page, and every key and route its place in a file.
theorem counts_agree (h : Menu.parse s.parseOptions content = .ok m) :
    ∃ n : Counts, n.Given (.ofMenu s m) ∧ n.Found content (.ofMenu s m) ∧
      numbers n.checkLine = [n.pages, n.files] ∧
      numbers n.summaryLine = [n.pages, n.files, n.routes, n.keys] ∧
      n.fileLines.map numbers = [[n.keys], [n.routes + 1], [n.pages]] :=
  ⟨.ofSite (.ofMenu s m), given_ofSite h, found_ofSite h, Counts.numbers_checkLine _,
    Counts.numbers_summaryLine _, Counts.map_numbers_fileLines _⟩

-- Both sections have a line that is dropped, and one page is without a file.
theorem counts_agree_dropped :
    let s : Settings := { Settings.default with languages := ⟨"es", some "ca"⟩ }
    let content :=
      "  Suelto\nInicio\n# nota\n  Carta (*)\nBlog\n----------\nInici\n    Perdut\nBlog\n"
    ∃ m, Menu.parse s.parseOptions content = .ok m ∧ m.droppedLines = [1, 8] ∧
      ∃ n : Counts, n.pages = 3 ∧ n.files = 2 ∧ n.Given (.ofMenu s m) ∧
        n.Found content (.ofMenu s m) ∧ numbers n.summaryLine = [3, 2, n.routes, n.keys] := by
  intro s content
  have ⟨m, hm, hd, hf⟩ : ∃ m ∈ (Menu.parse s.parseOptions content).toOption,
      m.droppedLines = [1, 8] ∧ (m.combined.entries.filter (·.file.isSome)).length = 2 := by
    decide +kernel
  have hm := Menu.mem_toOption_parse.mp hm
  have ⟨n, hg, hn, _, hs, _⟩ := counts_agree hm
  have hp : n.pages = 3 := by
    have ⟨first, hfirst, hl⟩ := hn.lines
    have hh : (Section.split content).head? = some [⟨1, "  Suelto".toList⟩, ⟨2, "Inicio".toList⟩,
        ⟨3, "# nota".toList⟩, ⟨4, "  Carta (*)".toList⟩, ⟨5, "Blog".toList⟩] := by decide +kernel
    cases hh.symm.trans hfirst
    have hd : (Site.ofMenu s m).menu.droppedLines = [1, 8] := hd
    rw [hd] at hl
    exact Nat.add_right_cancel (m := 1) hl
  have hf : n.files = 2 := hn.withFile.trans hf
  exact ⟨m, hm, hd, n, hp, hf, hg, hn, by rw [hs, hp, hf]⟩

end Report

end MenuOutline
