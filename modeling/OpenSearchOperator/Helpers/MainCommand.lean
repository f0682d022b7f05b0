import OpenSearchOperator.Data.Shell

/-! The shell command that installs plugins before the entrypoint runs. -/

namespace OpenSearchOperator.Helpers.MainCommand

open Data.Shell

def escapeQuotes (plugin : String) : String :=
  String.ofList (plugin.toList.flatMap fun c => if c = '\'' then ['\\', '\''] else [c])

def buildMainCommand (installerBinary : String) (pluginsList : List String) (batchMode : Bool)
    (entrypoint : String) : List String :=
  let com := installerBinary ++ " install"
  let com := if batchMode then com ++ " --batch" else com
  if pluginsList.length > 0 then
    let com := pluginsList.foldl (fun com plugin => com ++ " '" ++ escapeQuotes plugin ++ "'") com
    ["/bin/bash", "-c", "set -f && " ++ com ++ " && " ++ entrypoint]
  else ["/bin/bash", "-c", "set -f && " ++ entrypoint]

def buildMainCommandOSD (installerBinary : String) (pluginsList : List String)
    (entrypoint : String) : List String :=
  let com := pluginsList.foldl (fun com plugin =>
    com ++ installerBinary ++ " install" ++ " '" ++ escapeQuotes plugin ++ "'" ++ " && ") ""
  ["/bin/bash", "-c", com ++ entrypoint]

def parsed (command : List String) : Option (List Token) :=
  command[2]?.bind fun text => lex .plain none text.toList

inductive Item where
  | bare (text : String)
  | quoted (text : String)
  | and

def Item.text : Item → List Char
  | .bare text => text.toList
  | .quoted text => '\'' :: ((escapeQuotes text).toList ++ ['\''])
  | .and => ['&', '&']

def Item.tokens : Item → List Token
  | .bare text => if text.toList = [] then [] else [.word text.toList]
  | .quoted text => [.word text.toList]
  | .and => [.and]

def Item.Plain (item : Item) : Prop := ∀ text, item = .bare text → ∀ c ∈ text.toList, Bare c

def Item.Clean (item : Item) : Prop := ∀ text, item = .quoted text → '\'' ∉ text.toList

section Items

theorem escaped_clean {text : List Char} (clean : '\'' ∉ text) :
    (text.flatMap fun c => if c = '\'' then ['\\', '\''] else [c]) = text := by
  induction text with
  | nil => rfl
  | cons c text ih => grind

theorem bare_of_all {text : String} (all : (text.toList.all fun c => Bare c) = true) :
    ∀ c ∈ text.toList, Bare c := by
  simpa using all

theorem lex_quote {cs : List Char} : lex .plain none ('\'' :: cs) = lex .single (some []) cs := by
  simp [lex, push]

theorem lex_item {item : Item} (plain : item.Plain) (clean : item.Clean) (cs : List Char) :
    lex .plain none (item.text ++ ' ' :: cs) = (lex .plain none cs).map (item.tokens ++ ·) ∧
      lex .plain none item.text = some item.tokens := by
  cases item with
  | bare text =>
    rw [Item.text, Item.tokens]
    by_cases filled : text.toList = []
    · simp [filled, lex, isBlank]
    have read := lex_bare (plain _ rfl) filled none
    have whole := read []
    rw [List.append_nil] at whole
    simp [read, whole, filled, lex, isBlank, push]
  | quoted text =>
    have read := @lex_single text.toList (clean _ rfl) []
    rw [Item.text, escapeQuotes, String.toList_ofList, escaped_clean (clean _ rfl)]
    simp [lex_quote, read, lex, isBlank, Item.tokens]
  | and => simp [Item.text, Item.tokens, lex, isBlank]

theorem lex_unclean {item : Item} (unclean : ¬ item.Clean) (cs : List Char) (tokens : List Token) :
    lex .plain none (item.text ++ cs) ≠ some (item.tokens ++ tokens) := by
  intro lexed
  cases item with
  | quoted plugin =>
    have quote : '\'' ∈ plugin.toList := by simpa [Item.Clean] using unclean
    obtain ⟨first, rest, text, clean⟩ := List.eq_append_cons_of_mem quote
    have unquoted : '\'' ∉ first ++ ['\\'] := by simpa using clean
    have single := lex_single unquoted []
    simp only [Item.text, Item.tokens, escapeQuotes, String.toList_ofList, text,
      List.flatMap_append, escaped_clean clean, List.append_assoc, List.cons_append,
      List.nil_append, List.flatMap_cons, if_true, lex_quote] at lexed single
    rw [single] at lexed
    obtain ⟨more, head⟩ := begins_lex lexed (by simp) rfl
    simp at head
  | _ => simp [Item.Clean] at unclean

def render (items : List Item) (entrypoint : String) : List Char :=
  items.flatMap (fun item => item.text ++ [' ']) ++ entrypoint.toList

theorem lex_render_iff {items : List Item} (plain : ∀ item ∈ items, item.Plain)
    {entrypoint : String} (last : (Item.bare entrypoint).Plain) :
    lex .plain none (render items entrypoint) =
      some (items.flatMap Item.tokens ++ (Item.bare entrypoint).tokens) ↔
      ∀ item ∈ items, item.Clean := by
  induction items with
  | nil => simpa [render, Item.text] using (lex_item last (by simp [Item.Clean]) []).2
  | cons first items ih =>
    rw [List.forall_mem_cons] at plain
    have whole : render (first :: items) entrypoint =
        first.text ++ ' ' :: render items entrypoint := by
      simp [render]
    rw [whole, List.flatMap_cons, List.append_assoc, List.forall_mem_cons, ← ih plain.2]
    by_cases clean : first.Clean
    · simp [(lex_item plain.1 clean _).1, clean]
    · simp [lex_unclean clean, clean]

end Items

section Commands

variable (installerBinary : String) (pluginsList : List String) (batchMode : Bool)
  (entrypoint : String) {text : String}

def mainItems : List Item :=
  .bare "set" :: .bare "-f" :: .and :: (if pluginsList = [] then [] else
    .bare installerBinary :: .bare "install" :: (if batchMode then [.bare "--batch"] else []) ++
      pluginsList.map Item.quoted ++ [.and])

def osdItems : List Item :=
  pluginsList.flatMap fun plugin =>
    [.bare installerBinary, .bare "install", .quoted plugin, .and]

theorem parsed_main : parsed (buildMainCommand installerBinary pluginsList batchMode entrypoint) =
    lex .plain none (render (mainItems installerBinary pluginsList batchMode) entrypoint) := by
  have arguments : ∀ (pluginsList : List String) (com : String) (cs : List Char),
      (pluginsList.foldl (fun com plugin => com ++ " '" ++ escapeQuotes plugin ++ "'") com).toList
        ++ ' ' :: cs = com.toList ++
          ' ' :: ((pluginsList.map Item.quoted).flatMap (fun item => item.text ++ [' ']) ++
            cs) := by
    intro pluginsList
    induction pluginsList with
    | nil => simp
    | cons plugin pluginsList ih => simp [ih, Item.text]
  by_cases empty : pluginsList = []
  · simp [parsed, buildMainCommand, render, mainItems, empty, Item.text]
  have filled : 0 < pluginsList.length := List.length_pos_of_ne_nil empty
  cases batchMode <;>
    simp [parsed, buildMainCommand, render, mainItems, empty, filled, arguments, Item.text]

theorem parsed_osd : parsed (buildMainCommandOSD installerBinary pluginsList entrypoint) =
    lex .plain none (render (osdItems installerBinary pluginsList) entrypoint) := by
  have commands : ∀ (com : String), (pluginsList.foldl (fun com plugin =>
      com ++ installerBinary ++ " install" ++ " '" ++ escapeQuotes plugin ++ "'" ++ " && ")
        com).toList = com.toList ++
          (osdItems installerBinary pluginsList).flatMap (fun item => item.text ++ [' ']) := by
    rw [osdItems]
    induction pluginsList with
    | nil => simp
    | cons plugin pluginsList ih => simp [ih, Item.text]
  simp [parsed, buildMainCommandOSD, commands, render]

theorem quoted_mem_main :
    .quoted text ∈ mainItems installerBinary pluginsList batchMode ↔ text ∈ pluginsList := by
  by_cases empty : pluginsList = [] <;> cases batchMode <;> simp [mainItems, empty]

theorem bare_mem (member : .bare text ∈ mainItems installerBinary pluginsList batchMode ∨
      .bare text ∈ osdItems installerBinary pluginsList) :
    text ∈ ["set", "-f", "install", "--batch", installerBinary] := by
  by_cases empty : pluginsList = [] <;> cases batchMode <;> simp_all [mainItems, osdItems] <;> grind

/-- The plugins are what the installer is given, and nothing but the installer and the
entrypoint is run, exactly when no plugin has a single quote in it. -/
theorem plugins_stay_arguments_iff (bareInstaller : ∀ c ∈ installerBinary.toList, Bare c)
    (bareEntrypoint : ∀ c ∈ entrypoint.toList, Bare c) :
    (parsed (buildMainCommand installerBinary pluginsList batchMode entrypoint) =
        some ((mainItems installerBinary pluginsList batchMode).flatMap Item.tokens ++
          (Item.bare entrypoint).tokens) ↔ ∀ plugin ∈ pluginsList, '\'' ∉ plugin.toList) ∧
    (parsed (buildMainCommandOSD installerBinary pluginsList entrypoint) =
        some ((osdItems installerBinary pluginsList).flatMap Item.tokens ++
          (Item.bare entrypoint).tokens) ↔ ∀ plugin ∈ pluginsList, '\'' ∉ plugin.toList) := by
  have checked : ∀ text ∈ ["set", "-f", "install", "--batch"],
      (text.toList.all fun c => Bare c) = true := by decide
  have letters := fun text member => bare_of_all (checked text member)
  clear checked
  have bare := @bare_mem installerBinary pluginsList batchMode
  have last : (Item.bare entrypoint).Plain := by simpa [Item.Plain] using bareEntrypoint
  rw [parsed_main, parsed_osd, lex_render_iff _ last, lex_render_iff _ last]
  · simp only [Item.Clean]
    constructor
    · grind [quoted_mem_main]
    · simp [osdItems]
      grind
  · grind [Item.Plain]
  · grind [Item.Plain]

end Commands

theorem plain_plugin_installed :
    parsed (buildMainCommandOSD "bin/plugin" ["repository-s3"] "entrypoint.sh") =
      some ([.word "bin/plugin".toList, .word "install".toList, .word "repository-s3".toList, .and,
        .word "entrypoint.sh".toList]) :=
  (plugins_stay_arguments_iff "bin/plugin" ["repository-s3"] false "entrypoint.sh"
    (bare_of_all (by decide)) (bare_of_all (by decide))).2.mpr (by decide)

/-- The quote of the plugin ends the argument, another command follows, and the entrypoint is
part of a comment. -/
theorem quoted_plugin_escapes :
    parsed (buildMainCommand "bin/plugin" ["';reboot #"] false "entrypoint.sh") =
      some ([.word "set".toList, .word "-f".toList, .and, .word "bin/plugin".toList,
        .word "install".toList, .word ['\\'], .operator ';', .word "reboot".toList]) := by
  decide +kernel

end OpenSearchOperator.Helpers.MainCommand
