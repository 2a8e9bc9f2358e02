import SqlAnywhere.Text.Basic

/-!
# Texts of the catalog queries

The tables of the catalog differ between the families of servers, the columns
of the answers do not: every family names them alike.  The queries bind the
parameters `tableName` and `schemaName`, the listing of tables only the second.
-/

namespace SqlAnywhere.QueryText

/-- A statement of several lines. -/
def ofLines (lines : List String) : Text :=
  ['\n'].intercalate (lines.map String.toList)

/-- Asks for the version of the server. -/
def version : Text :=
  "SELECT @@version AS ver".toList

/-- Asks for the number of owners of a table with a bare name. -/
def ownerCount : Text :=
  ("SELECT COUNT(*) AS cnt FROM SYS.SYSTABLE " ++
    "WHERE UPPER(table_name)=UPPER(:tableName)").toList

/-- Asks for the primary key columns of a table, in the family of release 9. -/
def primaryKeysV9 : Text :=
  ofLines [
    "SELECT",
    "    trim(C.column_name) AS field_name",
    "FROM SYS.SYSTABLE T",
    "LEFT OUTER JOIN SYS.SYSCOLUMN C ON",
    "    T.table_id = C.table_id",
    "JOIN SYS.SYSUSERPERMS U ON",
    "    U.user_id = T.creator",
    "WHERE",
    "    upper(T.table_name) = upper(:tableName) AND",
    "    upper(U.user_name) = upper(:schemaName) AND",
    "    C.pkey = 'Y'",
    "ORDER BY C.column_id"]

/-- Asks for the columns of a table, in the family of release 9. -/
def columnsV9 : Text :=
  ofLines [
    "SELECT DISTINCT",
    "    C.column_id AS column_id,",
    "    trim(C.column_name) AS column_name,",
    "    trim(D.domain_name) AS base_type,",
    "    C.width AS width,",
    "    C.scale AS scale,",
    "    C.[nulls] AS [nulls],",
    "    IFNULL(I.index_id, 'N', 'Y') AS [unique],",
    "    C.pkey AS pkey,",
    "    C.column_type AS column_type,",
    "    C.[default] AS [default],",
    "    NULL AS sequence_name,",
    "    C.remarks AS remarks",
    "FROM SYS.SYSCOLUMN C",
    "JOIN SYS.SYSDOMAIN D ON",
    "    D.domain_id = C.domain_id",
    "LEFT OUTER JOIN SYS.SYSINDEX I ON",
    "    I.table_id = C.table_id AND I.[unique] = 'U' AND",
    "    (SELECT COUNT(*) FROM SYS.SYSIXCOL XA WHERE XA.table_id = I.table_id AND " ++
      "XA.index_id = I.index_id AND XA.column_id = C.column_id) = 1 AND",
    "    (SELECT COUNT(*) FROM SYS.SYSIXCOL XB WHERE XB.table_id = I.table_id AND " ++
      "XB.index_id = I.index_id AND XB.column_id <> C.column_id) = 0",
    "JOIN SYS.SYSTABLE T ON",
    "    T.table_id = C.table_id",
    "JOIN SYS.SYSUSERPERMS U ON",
    "    U.user_id = T.creator",
    "WHERE",
    "    upper(U.user_name) = upper(:schemaName) AND",
    "    upper(T.table_name) = upper(:tableName)",
    "ORDER BY C.column_id"]

/--
Asks for the foreign keys of a table, in the family of release 9; a row holds
a key with lists of its columns.
-/
def foreignKeysV9 : Text :=
  ofLines [
    "SELECT",
    "    F.foreign_key_id AS foreign_key_id,",
    "    trim(PT.table_name) AS UQ_TABLE_NAME,",
    "    trim(LIST(FC.column_name, ',' ORDER BY K.foreign_column_id)) AS FK_COLUMN_NAME,",
    "    trim(LIST(PC.column_name, ',' ORDER BY K.foreign_column_id)) AS UQ_COLUMN_NAME",
    "FROM SYS.SYSFOREIGNKEY F",
    "JOIN SYS.SYSFKCOL K ON",
    "    K.foreign_table_id = F.foreign_table_id AND",
    "    K.foreign_key_id = F.foreign_key_id",
    "JOIN SYS.SYSCOLUMN FC ON",
    "    FC.table_id = F.foreign_table_id AND",
    "    FC.column_id = K.foreign_column_id",
    "JOIN SYS.SYSCOLUMN PC ON",
    "    PC.table_id = F.primary_table_id AND",
    "    PC.column_id = K.primary_column_id",
    "JOIN SYS.SYSTABLE FT ON",
    "    FT.table_id = F.foreign_table_id",
    "JOIN SYS.SYSUSERPERMS FU ON",
    "    FU.user_id = FT.creator",
    "JOIN SYS.SYSTABLE PT ON",
    "    PT.table_id = F.primary_table_id",
    "WHERE",
    "    upper(FU.user_name) = upper(:schemaName) AND",
    "    upper(FT.table_name) = upper(:tableName)",
    "GROUP BY F.foreign_key_id, F.role, PT.table_name",
    "ORDER BY F.role"]

/-- Asks for the tables of an owner, in the family of release 9. -/
def tableNamesV9 : Text :=
  ofLines [
    "SELECT trim(table_name) AS table_name, trim(user_name) AS TABLE_SCHEMA",
    "FROM SYS.SYSTABLE",
    "LEFT OUTER JOIN SYS.SYSUSERPERMS ON",
    "    creator = user_id",
    "WHERE",
    "    UPPER(user_name) = UPPER(:schemaName) AND",
    "    creator <> 0 AND",
    "    user_name NOT IN ('rs_systabgroup') AND",
    "    table_type IN ('BASE', 'VIEW')",
    "ORDER BY table_name"]

/-- Asks for the primary key columns of a table, since release 11. -/
def primaryKeysV11 : Text :=
  ofLines [
    "SELECT",
    "    trim(C.column_name) AS field_name",
    "FROM SYS.SYSTABLE T",
    "LEFT OUTER JOIN SYS.SYSUSER U ON",
    "    U.user_id = T.creator",
    "LEFT OUTER JOIN SYS.SYSCOLUMN C ON",
    "    T.table_id = C.table_id",
    "LEFT OUTER JOIN SYS.SYSIDXCOL I ON",
    "    T.table_id = I.table_id AND",
    "    I.index_id = 0 AND",
    "    C.column_id = I.column_id",
    "WHERE",
    "    upper(T.table_name) = upper(:tableName) AND",
    "    upper(U.user_name) = upper(:schemaName) AND",
    "    C.pkey = 'Y'",
    "ORDER BY I.sequence, C.column_id"]

/-- Asks for the columns of a table, in the family of release 11. -/
def columnsV11 : Text :=
  ofLines [
    "SELECT DISTINCT",
    "    C.column_id AS column_id,",
    "    trim(C.column_name) AS column_name,",
    "    trim(D.domain_name) AS base_type,",
    "    C.width AS width,",
    "    C.scale AS scale,",
    "    C.[nulls] AS [nulls],",
    "    IFNULL(IU.index_id, 'N', 'Y') AS [unique],",
    "    IFNULL(XP.index_id, 'N', 'Y') AS pkey,",
    "    C.column_type AS column_type,",
    "    C.[default] AS [default],",
    "    NULL AS sequence_name,",
    "    R.remarks AS remarks",
    "FROM SYS.SYSTABCOL C",
    "JOIN SYS.SYSDOMAIN D ON",
    "    D.domain_id = C.domain_id",
    "LEFT OUTER JOIN SYS.SYSIDX IU ON",
    "    IU.table_id = C.table_id AND",
    "    IU.index_category = 3 AND",
    "    IU.[unique] = 2 AND",
    "    (SELECT COUNT(*) FROM SYS.SYSIDXCOL XA WHERE XA.table_id = IU.table_id AND " ++
      "XA.index_id = IU.index_id AND XA.column_id = C.column_id) = 1 AND",
    "    (SELECT COUNT(*) FROM SYS.SYSIDXCOL XB WHERE XB.table_id = IU.table_id AND " ++
      "XB.index_id = IU.index_id AND XB.column_id <> C.column_id) = 0",
    "LEFT OUTER JOIN SYS.SYSIDXCOL XP ON",
    "    XP.table_id = C.table_id AND",
    "    XP.column_id = C.column_id AND",
    "    XP.index_id = 0",
    "LEFT OUTER JOIN SYS.SYSREMARK R ON",
    "    R.object_id = C.object_id",
    "JOIN SYS.SYSTAB T ON",
    "    T.table_id = C.table_id",
    "JOIN SYS.SYSUSER U ON",
    "    U.user_id = T.creator",
    "WHERE",
    "    upper(U.user_name) = upper(:schemaName) AND",
    "    upper(T.table_name) = upper(:tableName)",
    "ORDER BY C.column_id"]

/--
Asks for the columns of a table with the sequences of their defaults, since
release 12.
-/
def columnsV12 : Text :=
  ofLines [
    "SELECT DISTINCT",
    "    C.column_id AS column_id,",
    "    trim(C.column_name) AS column_name,",
    "    trim(D.domain_name) AS base_type,",
    "    C.width AS width,",
    "    C.scale AS scale,",
    "    C.[nulls] AS [nulls],",
    "    IFNULL(IU.index_id, 'N', 'Y') AS [unique],",
    "    IFNULL(XP.index_id, 'N', 'Y') AS pkey,",
    "    C.column_type AS column_type,",
    "    C.[default] AS [default],",
    "    Q.sequence_name AS sequence_name,",
    "    NULL AS remarks",
    "FROM SYS.SYSTABCOL C",
    "JOIN SYS.SYSDOMAIN D ON",
    "    D.domain_id = C.domain_id",
    "LEFT OUTER JOIN SYS.SYSIDX IU ON",
    "    IU.table_id = C.table_id AND",
    "    IU.index_category = 3 AND",
    "    IU.[unique] = 2 AND",
    "    (SELECT COUNT(*) FROM SYS.SYSIDXCOL XA WHERE XA.table_id = IU.table_id AND " ++
      "XA.index_id = IU.index_id AND XA.column_id = C.column_id) = 1 AND",
    "    (SELECT COUNT(*) FROM SYS.SYSIDXCOL XB WHERE XB.table_id = IU.table_id AND " ++
      "XB.index_id = IU.index_id AND XB.column_id <> C.column_id) = 0",
    "LEFT OUTER JOIN SYS.SYSIDXCOL XP ON",
    "    XP.table_id = C.table_id AND",
    "    XP.column_id = C.column_id AND",
    "    XP.index_id = 0",
    "JOIN SYS.SYSTAB T ON",
    "    T.table_id = C.table_id",
    "LEFT OUTER JOIN SYS.SYSSEQUENCE Q ON",
    "    C.[default] LIKE string('%', Q.sequence_name, '%.nextval%')",
    "JOIN SYS.SYSUSER U ON",
    "    U.user_id = T.creator",
    "WHERE",
    "    upper(U.user_name) = upper(:schemaName) AND",
    "    upper(T.table_name) = upper(:tableName)",
    "ORDER BY C.column_id"]

/--
Asks for the foreign keys of a table, since release 11; a row holds one
column of a key.
-/
def foreignKeysV11 : Text :=
  ofLines [
    "SELECT",
    "    I.index_id AS foreign_key_id,",
    "    trim(C.column_name) AS FK_COLUMN_NAME,",
    "    trim(PT.table_name) AS UQ_TABLE_NAME,",
    "    trim(PC.column_name) AS UQ_COLUMN_NAME",
    "FROM SYS.SYSIDX I",
    "JOIN SYS.SYSTABLE T ON",
    "    T.table_id = I.table_id",
    "JOIN SYS.SYSUSER U ON",
    "    U.user_id = T.creator",
    "JOIN SYS.SYSIDXCOL X ON",
    "    X.table_id = I.table_id AND",
    "    X.index_id = I.index_id",
    "JOIN SYS.SYSTABCOL C ON",
    "    C.table_id = X.table_id AND",
    "    C.column_id = X.column_id",
    "LEFT OUTER JOIN (",
    "    SYS.SYSFKEY F JOIN SYS.SYSIDX PI ON",
    "        PI.table_id = F.primary_table_id AND",
    "        PI.index_id = F.primary_index_id",
    "    JOIN SYS.SYSTABLE PT ON",
    "        PT.table_id = PI.table_id",
    "    JOIN SYS.SYSTABCOL PC ON",
    "        PC.table_id = F.primary_table_id",
    "    ) ON",
    "    F.foreign_table_id = I.table_id AND",
    "    F.foreign_index_id = I.index_id AND",
    "    PC.column_id = X.primary_column_id",
    "WHERE I.index_category IN (2) AND",
    "    upper(U.user_name) = upper(:schemaName) AND",
    "    upper(T.table_name) = upper(:tableName)",
    "ORDER BY PT.table_name, I.index_id, X.sequence"]

/-- Asks for the tables of an owner, since release 11. -/
def tableNamesV11 : Text :=
  ofLines [
    "SELECT trim(table_name) AS table_name, trim(user_name) AS TABLE_SCHEMA",
    "FROM SYS.SYSTABLE",
    "LEFT OUTER JOIN SYS.SYSUSER ON",
    "    creator = user_id",
    "WHERE",
    "    UPPER(user_name) = UPPER(:schemaName) AND",
    "    creator <> 0 AND",
    "    user_name NOT IN ('rs_systabgroup') AND",
    "    table_type IN ('BASE', 'VIEW')",
    "ORDER BY table_name"]

end SqlAnywhere.QueryText
