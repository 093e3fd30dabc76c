import Typewright.Section
import Typewright.Pg.Import
import Typewright.Pg.Table

/-!
# Data-access files

A data-access file has three sections: the header comment, a client, and a namespace. The namespace
starts with functions that make parts of queries, and has the types and queries of each table after
them.
-/

namespace Typewright.Pg

/-- Lines with a line feed between each two. -/
def linesText (ls : List String) : String := String.intercalate "\n" ls

/-! ## Tables -/

/-- The types of a table: its key, its records, and the arguments of its queries. -/
def Table.typeLines (t : Table) : List String :=
  ["export type " ++ t.name ++ "PK = " ++ t.keyType ++ ";",
   "export type " ++ t.name ++ "Columns = " ++ t.columnsType ++ ";",
   "export type " ++ t.name ++ "Select = \x7b",
   "  [P in keyof " ++ t.name ++ "Columns]?: boolean;",
   "\x7d;",
   "export type " ++ t.name ++ "OrderByInput = \x7b",
   "  [P in keyof " ++ t.name ++ "Columns]?: \"asc\" | \"desc\";",
   "\x7d;",
   "export type " ++ t.name ++ "WhereInput = \x7b",
   "  [P in keyof " ++ t.name ++ "Columns]?: " ++ t.name ++ "Columns[P] | null;",
   "\x7d;",
   "export type " ++ t.name ++ "FindManyArgs = \x7b",
   "  select?: " ++ t.name ++ "Select | null;",
   "  where?: " ++ t.name ++ "WhereInput;",
   "  orderBy?: " ++ t.name ++ "OrderByInput;",
   "  take?: number;",
   "  skip?: number;",
   "\x7d;"]

/-- The query for one record. -/
def Table.findUniqueLines (t : Table) : List String :=
  ["  export function findUnique(args: \x7b where: " ++ t.name ++ "PK; select?: " ++ t.name ++
     "Select | null \x7d) \x7b",
   "    const query = `SELECT $\x7bPG.$columns(args.select)\x7d FROM $\x7bPG.$ident(table)\x7d" ++
     " WHERE $\x7bPG.$conditions(args.where)\x7d LIMIT 1`;",
   "    return PG.$rawQuery(query, Object.values(args.where));",
   "  \x7d"]

/-- The query for several records. -/
def Table.findManyLines (t : Table) : List String :=
  ["  export function findMany(args: " ++ t.name ++ "FindManyArgs = \x7b\x7d) \x7b",
   "    const where = args.where ? `WHERE $\x7bPG.$conditions(args.where)\x7d` : \"\";",
   "    const orderBy = args.orderBy",
   "      ? \"ORDER BY \" +",
   "        Object.entries(args.orderBy)",
   "          .map(([key, direction]) => `$\x7bPG.$ident(key)\x7d $\x7bdirection === \"desc\"" ++
     " ? \"DESC\" : \"ASC\"\x7d`)",
   "          .join(\", \")",
   "      : \"\";",
   "    const query = `SELECT $\x7bPG.$columns(args.select)\x7d FROM $\x7bPG.$ident(table)\x7d" ++
     " $\x7bwhere\x7d $\x7borderBy\x7d LIMIT $\x7bargs.take ?? \"ALL\"\x7d OFFSET" ++
     " $\x7bargs.skip ?? 0\x7d`;",
   "    return PG.$rawQuery(query, args.where ? Object.values(args.where) : []);",
   "  \x7d"]

/-- The query that adds a record. -/
def Table.createLines (t : Table) : List String :=
  ["  export function create(data: " ++ t.name ++ "Columns) \x7b",
   "    const keys = Object.keys(data);",
   "    const placeholders = keys.map((_, i) => `$$\x7bi + 1\x7d`).join(\", \");",
   "    const query = `INSERT INTO $\x7bPG.$ident(table)\x7d" ++
     " ($\x7bkeys.map(PG.$ident).join(\", \")\x7d) VALUES ($\x7bplaceholders\x7d) RETURNING *`;",
   "    return PG.$rawQuery(query, Object.values(data));",
   "  \x7d"]

/-- The query that changes a record. -/
def Table.updateLines (t : Table) : List String :=
  ["  export function update(args: \x7b where: " ++ t.name ++ "PK; data: Partial<" ++ t.name ++
     "Columns> \x7d) \x7b",
   "    const keys = Object.keys(args.data);",
   "    const assignments = keys.map((key, i) => `$\x7bPG.$ident(key)\x7d = $$\x7bi + 1\x7d`)" ++
     ".join(\", \");",
   "    const query = `UPDATE $\x7bPG.$ident(table)\x7d SET $\x7bassignments\x7d" ++
     " WHERE $\x7bPG.$conditions(args.where, keys.length)\x7d RETURNING *`;",
   "    return PG.$rawQuery(query, [...Object.values(args.data), ...Object.values(args.where)]);",
   "  \x7d"]

/-- The query that removes a record. -/
def Table.deleteLines (t : Table) : List String :=
  ["  export function deleteUnique(args: \x7b where: " ++ t.name ++ "PK \x7d) \x7b",
   "    const query = `DELETE FROM $\x7bPG.$ident(table)\x7d" ++
     " WHERE $\x7bPG.$conditions(args.where)\x7d RETURNING *`;",
   "    return PG.$rawQuery(query, Object.values(args.where));",
   "  \x7d"]

/-- The text of a table: its types, and a namespace with its queries. -/
def Table.text (t : Table) : String :=
  linesText (t.typeLines ++
    ["",
     "export namespace " ++ t.name ++ " \x7b",
     "  const table = " ++ t.tableName.quoted ++ ";",
     ""] ++ t.findUniqueLines ++ [""] ++ t.findManyLines ++ [""] ++ t.createLines ++ [""] ++
    t.updateLines ++ [""] ++ t.deleteLines ++ ["\x7d"])

/-! ## The client and the namespace -/

/-- The import of the types of the models, if there are any. -/
def importLines (names : List String) (specifier : String) : List String :=
  if names.isEmpty then []
  else ["import type \x7b " ++ String.intercalate ", " names ++ " \x7d from " ++
    Text.doubleQuoted specifier ++ ";"]

/-- The client: imports, the pool of connections, and a function that connects. -/
def clientText (c : Config) (names : List String) (specifier : String) : String :=
  linesText (
    ["import \"dotenv/config\";",
     "import \x7b Pool \x7d from \"pg\";"] ++ importLines names specifier ++
    ["",
     "const client = new Pool(\x7b",
     "  connectionString: process.env." ++ (c.value .pgEnvVar).display ++ "!,",
     "\x7d);",
     "",
     "export async function connect() \x7b",
     "  await client.connect();",
     "\x7d"])

/-- The functions that make parts of queries. -/
def toolLines : List String :=
  ["  export function $rawQuery(query: string, values: unknown[] = []) \x7b",
   "    return client.query(query, values);",
   "  \x7d",
   "",
   "  export function $ident(name: string): string \x7b",
   "    return '\"' + name.replace(/\"/g, '\"\"') + '\"';",
   "  \x7d",
   "",
   "  export function $columns(select?: Record<string, boolean | undefined> | null): string \x7b",
   "    const keys = select ? Object.keys(select).filter((key) => select[key]) : [];",
   "    return keys.length ? keys.map($ident).join(\", \") : \"*\";",
   "  \x7d",
   "",
   "  export function $conditions(where: Record<string, unknown>, offset = 0): string \x7b",
   "    return Object.keys(where)",
   "      .map((key, i) => `$\x7b$ident(key)\x7d = $$\x7bi + 1 + offset\x7d`)",
   "      .join(\" AND \");",
   "  \x7d"]

/-- The namespace: the functions, and the tables behind a margin. -/
def namespaceText (tables : List Table) : String :=
  linesText (["export namespace PG \x7b"] ++ toolLines ++
    tables.flatMap (fun t => ["", Layout.indent 2 t.text]) ++ ["\x7d"])

/-! ## Files -/

/-- The sections of a file, seen from a working directory. -/
def sections (directory : List String) (c : Config) (n : Naming) (d : Datamodel) :
    Outcome (List String) := do
  let tables ← d.models.mapM (table n)
  let specifier ← Outcome.ofMisuse (typesModule directory c)
  return headerSection c ++ [clientText c (tables.map (·.name)) specifier, namespaceText tables]

/-- The text of a file, seen from a working directory. -/
def file (directory : List String) (c : Config) (n : Naming) (d : Datamodel) : Outcome String := do
  return fileText (← sections directory c n d)

end Typewright.Pg
