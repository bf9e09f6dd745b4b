import CodePager.Service.Read

/-! # Instructions

What a client is told about the bridge when it connects: where the backend is, how to find a tool,
and how large results are paged. -/

namespace CodePager

/-- The paragraphs of the instructions; each line but the last ends in a space. -/
def instructionLines (backend threshold : String) : List String :=
  ["JADX decompiler bridge for Android reverse engineering. Backend: " ++ backend, "",
   "Workflow:",
   "1. health: Check that the JADX plugin is reachable",
   "2. tool_catalog: Discover tools for your task (e.g., 'rename method', 'smali')",
   "3. tool_help: Get full docs for a specific tool",
   "4. Read code with get_class_source / get_method_source and friends", "",
   "Paging: large results (at least " ++ threshold ++ " lines or records) are cached once and " ++
     "returned one page at a time with cached=true, cache_key, current_page, total_pages and " ++
     "total_units. Ask for page_index=2,3,... to continue without refetching; page_index=1 " ++
     "(or refresh=true) refetches. get_cached_page(cache_key) pages any cached entry, " ++
     "get_method_source_page pages the last method source.",
   "Renames and comments flush the cache.", "",
   "Tool Categories:",
   "- core: health and discovery (health, tool_catalog, tool_help)",
   "- classes: class lists, source, smali, info, methods, fields",
   "- methods: method source, info, search, parameters, instructions",
   "- android: manifest, main activity, application classes",
   "- resources: strings and resource files",
   "- paging: cached pages and cache statistics",
   "- editing: rename classes/methods/fields/parameters, add comments", "",
   "Tip: Use tool_catalog(query='what you want to do') to find the right tool."]

/-- Joins lines: a line that is not empty has a space before its line feed. -/
def joinInstructions : List String → String
  | [] => ""
  | [line] => line
  | line :: rest => (if line = "" then "\n" else line ++ " \n") ++ joinInstructions rest

/-- **What a client is told** when it connects. -/
def Service.instructions (s : Service) : String :=
  joinInstructions <|
    instructionLines s.config.backend.baseUrl (toString s.config.cache.threshold)

end CodePager
