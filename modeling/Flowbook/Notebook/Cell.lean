import Flowbook.Text.Blank

namespace Flowbook

open Flowbook.Text

/-!
Notebooks as lists of cells, and their source text. The source is a program:
markdown stands in comments, every line of it after the same mark, and a
comment of its own separates each two cells.
-/

inductive Cell where
  | markdown (lines : List String)
  | code (lines : List String)
deriving DecidableEq

def physicalLines (text : String) : List (List Char) :=
  pieces (· == '\n') text.toList

/-- The source of one physical line of markdown. -/
def markdownLine (line : List Char) : String :=
  let content := dropTrailing (· == '\r') line
  if content.isEmpty then "# MAGIC\n" else "# MAGIC " ++ String.ofList content ++ "\n"

def Cell.source : Cell → String
  | markdown lines =>
    "# MAGIC %md\n" ++ String.join ((lines.flatMap physicalLines).map markdownLine)
  | code lines => String.join (lines.map (fun line => line ++ "\n"))

structure Notebook where
  cells : List Cell
deriving DecidableEq

namespace Notebook

def empty : Notebook :=
  ⟨[]⟩

def push (notebook : Notebook) (cell : Cell) : Notebook :=
  ⟨notebook.cells ++ [cell]⟩

def heading : String :=
  "# Databricks notebook source\n"

def separator : String :=
  "\n# COMMAND ----------\n\n"

def source (notebook : Notebook) : String :=
  heading ++ separator.intercalate (notebook.cells.map Cell.source)

end Notebook

end Flowbook
