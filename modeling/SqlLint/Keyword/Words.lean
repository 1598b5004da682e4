/-!
# Reserved words

The words of BigQuery Standard SQL that are keywords wherever they stand: the words of the
grammar, of scripts and of function definitions, and the names of the built-in functions. All are
given in upper case.
-/

set_option autoImplicit false

namespace SqlLint.Keyword

def grammar : List String :=
  ["ALL", "AND", "ANY", "ARRAY", "AS", "ASC", "ASSERT_ROWS_MODIFIED", "AT", "BETWEEN", "BY",
   "CASE", "CAST", "COLLATE", "CONTAINS", "CREATE", "CROSS", "CUBE", "CURRENT", "DEFAULT",
   "DEFINE", "DESC", "DISTINCT", "ELSE", "END", "ENUM", "ESCAPE", "EXCEPT", "EXCLUDE", "EXISTS",
   "EXTRACT", "FALSE", "FETCH", "FOLLOWING", "FOR", "FROM", "FULL", "GROUP", "GROUPING", "GROUPS",
   "HASH", "HAVING", "IF", "IGNORE", "IN", "INNER", "INTERSECT", "INTERVAL", "INTO", "IS", "JOIN",
   "LATERAL", "LEFT", "LIKE", "LIMIT", "LOOKUP", "MERGE", "NATURAL", "NEW", "NO", "NOT", "NULL",
   "NULLS", "OF", "ON", "OR", "ORDER", "OUTER", "OVER", "PARTITION", "PRECEDING", "PROTO",
   "RANGE", "RECURSIVE", "RESPECT", "RIGHT", "ROLLUP", "ROWS", "SELECT", "SET", "SOME", "STRUCT",
   "TABLESAMPLE", "THEN", "TO", "TREAT", "TRUE", "UNBOUNDED", "UNION", "UNNEST", "USING", "WHEN",
   "WHERE", "WINDOW", "WITH", "WITHIN"]

def scripting : List String :=
  ["DECLARE", "BEGIN", "LOOP", "WHILE", "BREAK", "LEAVE", "CONTINUE", "ITERATE", "RETURN", "CALL"]

def definitions : List String :=
  ["TEMP", "TEMPORARY", "RETURNS", "LANGUAGE"]

def aggregates : List String :=
  ["ANY_VALUE", "ARRAY_AGG", "ARRAY_CONCAT_AGG", "AVG", "BIT_AND", "BIT_OR", "BIT_XOR", "COUNT",
   "COUNTIF", "LOGICAL_AND", "LOGICAL_OR", "MAX", "MIN", "STRING_AGG", "SUM"]

def statistics : List String :=
  ["CORR", "COVAR_POP", "COVAR_SAMP", "STDDEV_POP", "STDDEV_SAMP", "STDDEV", "VAR_POP",
   "VAR_SAMP", "VARIANCE"]

def approximate : List String :=
  ["APPROX_COUNT_DISTINCT", "APPROX_QUANTILES", "APPROX_TOP_COUNT", "APPROX_TOP_SUM"]

def numbering : List String :=
  ["RANK", "DENSE_RANK", "PERCENT_RANK", "CUME_DIST", "NTILE", "ROW_NUMBER"]

def bits : List String :=
  ["BIT_COUNT"]

def mathematics : List String :=
  ["ABS", "SIGN", "IS_INF", "IS_NAN", "IEEE_DIVIDE", "RAND", "SQRT", "POW", "POWER", "EXP", "LN",
   "LOG", "LOG10", "GREATEST", "LEAST", "DIV", "SAFE_DIVIDE", "MOD", "ROUND", "TRUNC", "CEIL",
   "CEILING", "FLOOR", "COS", "COSH", "ACOS", "ACOSH", "SIN", "SINH", "ASIN", "ASINH", "TAN",
   "TANH", "ATAN", "ATANH", "ATAN2"]

def navigation : List String :=
  ["FIRST_VALUE", "LAST_VALUE", "NTH_VALUE", "LEAD", "LAG", "PERCENTILE_CONT", "PERCENTILE_DISC"]

def hashes : List String :=
  ["FARM_FINGERPRINT", "MD5", "SHA1", "SHA256", "SHA512"]

def strings : List String :=
  ["BYTE_LENGTH", "CHAR_LENGTH", "CHARACTER_LENGTH", "CODE_POINTS_TO_BYTES",
   "CODE_POINTS_TO_STRING", "CONCAT", "ENDS_WITH", "FORMAT", "FROM_BASE32", "FROM_BASE64",
   "FROM_HEX", "LENGTH", "LPAD", "LOWER", "LTRIM", "NORMALIZE", "NORMALIZE_AND_CASEFOLD",
   "REGEXP_CONTAINS", "REGEXP_EXTRACT", "REGEXP_EXTRACT_ALL", "REGEXP_REPLACE", "REPLACE",
   "REPEAT", "REVERSE", "RPAD", "RTRIM", "SAFE_CONVERT_BYTES_TO_STRING", "SPLIT", "STARTS_WITH",
   "STRPOS", "SUBSTR", "TO_BASE32", "TO_BASE64", "TO_CODE_POINTS", "TO_HEX", "TRIM", "UPPER"]

def json : List String :=
  ["JSON_EXTRACT", "JSON_EXTRACT_SCALAR", "TO_JSON_STRING"]

def arrays : List String :=
  ["ARRAY_CONCAT", "ARRAY_LENGTH", "ARRAY_TO_STRING", "GENERATE_ARRAY", "GENERATE_DATE_ARRAY",
   "GENERATE_TIMESTAMP_ARRAY", "ARRAY_REVERSE", "SAFE_OFFSET", "SAFE_ORDINAL"]

def dates : List String :=
  ["CURRENT_DATE", "DATE", "DATE_ADD", "DATE_SUB", "DATE_DIFF", "DATE_TRUNC",
   "DATE_FROM_UNIX_DATE", "FORMAT_DATE", "PARSE_DATE", "UNIX_DATE"]

def datetimes : List String :=
  ["CURRENT_DATETIME", "DATETIME", "DATETIME_ADD", "DATETIME_SUB", "DATETIME_DIFF",
   "DATETIME_TRUNC", "FORMAT_DATETIME", "PARSE_DATETIME"]

def times : List String :=
  ["CURRENT_TIME", "TIME", "TIME_ADD", "TIME_DIFF", "TIME_TRUNC", "FORMAT_TIME", "PARSE_TIME"]

def timestamps : List String :=
  ["CURRENT_TIMESTAMP", "STRING", "TIMESTAMP", "TIMESTAMP_ADD", "TIMESTAMP_SUB", "TIMESTAMP_DIFF",
   "TIMESTAMP_TRUNC", "FORMAT_TIMESTAMP", "PARSE_TIMESTAMP", "TIMESTAMP_SECONDS",
   "TIMESTAMP_MILLIS", "TIMESTAMP_MICROS", "UNIX_SECONDS", "UNIX_MILLIS", "UNIX_MICROS"]

/-- Functions of access control. -/
def security : List String :=
  ["SESSION_USER"]

/-- The reserved words that are not functions. -/
def words : List String :=
  grammar ++ scripting ++ definitions

/-- The names of the built-in functions. -/
def functions : List String :=
  aggregates ++ statistics ++ approximate ++ numbering ++ bits ++ mathematics ++ navigation ++
    hashes ++ strings ++ json ++ arrays ++ dates ++ datetimes ++ times ++ timestamps ++ security

/-- The keywords that need no setting. -/
def builtin : List String :=
  words ++ functions

end SqlLint.Keyword
