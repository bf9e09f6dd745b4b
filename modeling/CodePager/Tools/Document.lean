import CodePager.Tools.Tool

/-! # The tools document

A page in Markdown that lists every tool under its category. -/

namespace CodePager

namespace Tool

/-- The row of a tool in the table of its category. -/
def documentRow (t : Tool) : String := "| `" ++ t.name ++ "` | " ++ t.info.summary ++ " |"

/-- The lines about a category; a category without tools has none. -/
def documentCategory (c : ToolCategory) : List String :=
  match inCategory c with
  | [] => []
  | tools =>
    ["## " ++ c.title ++ " (`" ++ c.name ++ "`)", "", c.description, "",
     "| Tool | Description |", "|------|-------------|"] ++ tools.map documentRow ++ [""]

/-- The lines above the categories. -/
def documentHead : List String :=
  ["# Tools", "",
   "> Auto-generated from `src/tool_registry.rs`. Do not edit by hand.",
   "> Regenerate with: `cargo run --bin gen_tools_doc -- docs/TOOLS.md`.", "",
   "## Discovery Workflow", "",
   "- `tools/list` returns the full tool set (currently " ++ toString all.length ++ " tools)",
   "- `tool_catalog(query=...)` searches all tools by intent",
   "- `tool_help(name=...)` returns full documentation and schema", ""]

/-- The lines below the categories. -/
def documentFoot : List String :=
  ["## Paging", "",
   "- Results with at least `--cache-threshold` lines or records (default 200) are cached",
   "- Cached responses carry `cache_key`, `current_page`, `total_pages` and `has_more`",
   "- Page 1 always refetches; later pages are served from the cache via `get_cached_page`",
   "- Renames and comments drop every cached entry, before the write and again after it"]

/-- The lines of the tools document. -/
def documentLines : List String :=
  documentHead ++ ToolCategory.all.flatMap documentCategory ++ documentFoot

/-- **The tools document.** -/
def document : String := String.join (documentLines.map fun line => line ++ "\n")

end Tool

end CodePager
