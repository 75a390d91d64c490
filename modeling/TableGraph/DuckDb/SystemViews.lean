import TableGraph.DuckDb.Catalog

/-!
The views that are in every session, whatever file is opened: those that tell about tables and other
things in the way of DuckDB itself, and those that tell about them as other databases do.
-/

namespace TableGraph.DuckDb

def systemView (name : String) (columns : List (String × String)) : CatalogTable where
  name
  isView := true
  columns := columns.flatMap fun (type, names) =>
    (Text.split ' ' names).map fun name => { name, type }

def mainViews : List CatalogTable := [
  systemView "duckdb_columns" [
    ("VARCHAR", "database_name"), ("BIGINT", "database_oid"), ("VARCHAR", "schema_name"),
    ("BIGINT", "schema_oid"), ("VARCHAR", "table_name"), ("BIGINT", "table_oid"),
    ("VARCHAR", "column_name"), ("INTEGER", "column_index"), ("VARCHAR", "comment"),
    ("BOOLEAN", "internal"), ("VARCHAR", "column_default"), ("BOOLEAN", "is_nullable"),
    ("VARCHAR", "data_type"), ("BIGINT", "data_type_id"),
    ("INTEGER", "character_maximum_length numeric_precision numeric_precision_radix"),
    ("INTEGER", "numeric_scale"), ("BOOLEAN", "is_generated"), ("VARCHAR", "generation_expression"),
    ("MAP(VARCHAR, VARCHAR)", "tags")],
  systemView "duckdb_constraints" [
    ("VARCHAR", "database_name"), ("BIGINT", "database_oid"), ("VARCHAR", "schema_name"),
    ("BIGINT", "schema_oid"), ("VARCHAR", "table_name"), ("BIGINT", "table_oid constraint_index"),
    ("VARCHAR", "constraint_type constraint_text expression"),
    ("BIGINT[]", "constraint_column_indexes"), ("VARCHAR[]", "constraint_column_names"),
    ("VARCHAR", "constraint_name referenced_table"), ("VARCHAR[]", "referenced_column_names")],
  systemView "duckdb_databases" [
    ("VARCHAR", "database_name"), ("BIGINT", "database_oid"), ("VARCHAR", "path comment"),
    ("MAP(VARCHAR, VARCHAR)", "tags"), ("BOOLEAN", "internal"), ("VARCHAR", "type"),
    ("BOOLEAN", "readonly encrypted"), ("VARCHAR", "cipher"), ("MAP(VARCHAR, VARCHAR)", "options")],
  systemView "duckdb_indexes" [
    ("VARCHAR", "database_name"), ("BIGINT", "database_oid"), ("VARCHAR", "schema_name"),
    ("BIGINT", "schema_oid"), ("VARCHAR", "index_name"), ("BIGINT", "index_oid"),
    ("VARCHAR", "table_name"), ("BIGINT", "table_oid"), ("VARCHAR", "comment"),
    ("MAP(VARCHAR, VARCHAR)", "tags"), ("BOOLEAN", "is_unique is_primary"),
    ("VARCHAR", "expressions sql")],
  systemView "duckdb_logs" [
    ("TIMESTAMP", "timestamp"), ("VARCHAR", "type log_level message scope"),
    ("UBIGINT", "connection_id transaction_id query_id thread_id context_id")],
  systemView "duckdb_schemas" [
    ("BIGINT", "oid"), ("VARCHAR", "database_name"), ("BIGINT", "database_oid"),
    ("VARCHAR", "schema_name comment"), ("MAP(VARCHAR, VARCHAR)", "tags"), ("BOOLEAN", "internal"),
    ("VARCHAR", "sql parent_schema_name"), ("BIGINT", "parent_schema_oid")],
  systemView "duckdb_tables" [
    ("VARCHAR", "database_name"), ("BIGINT", "database_oid"), ("VARCHAR", "schema_name"),
    ("BIGINT", "schema_oid"), ("VARCHAR", "table_name"), ("BIGINT", "table_oid"),
    ("VARCHAR", "comment"), ("MAP(VARCHAR, VARCHAR)", "tags"),
    ("BOOLEAN", "internal temporary has_primary_key"),
    ("BIGINT", "estimated_size column_count index_count check_constraint_count"), ("VARCHAR", "sql")],
  systemView "duckdb_types" [
    ("VARCHAR", "database_name"), ("BIGINT", "database_oid"), ("VARCHAR", "schema_name"),
    ("BIGINT", "schema_oid type_oid"), ("VARCHAR", "type_name"), ("BIGINT", "type_size"),
    ("VARCHAR", "logical_type type_category comment"), ("MAP(VARCHAR, VARCHAR)", "tags"),
    ("BOOLEAN", "internal"), ("VARCHAR[]", "labels"), ("VARCHAR", "sql"), ("BOOLEAN", "temporary"),
    ("VARCHAR[]", "parameters parameter_types")],
  systemView "duckdb_views" [
    ("VARCHAR", "database_name"), ("BIGINT", "database_oid"), ("VARCHAR", "schema_name"),
    ("BIGINT", "schema_oid"), ("VARCHAR", "view_name"), ("BIGINT", "view_oid"),
    ("VARCHAR", "comment"), ("MAP(VARCHAR, VARCHAR)", "tags"), ("BOOLEAN", "internal temporary"),
    ("BIGINT", "column_count"), ("VARCHAR", "sql"), ("BOOLEAN", "is_bound")],
  systemView "pragma_database_list" [
    ("BIGINT", "seq"), ("VARCHAR", "name file")],
  systemView "sqlite_master" [
    ("VARCHAR", "type name tbl_name"), ("INTEGER", "rootpage"), ("VARCHAR", "sql")],
  systemView "sqlite_schema" [
    ("VARCHAR", "type name tbl_name"), ("INTEGER", "rootpage"), ("VARCHAR", "sql")],
  systemView "sqlite_temp_master" [
    ("VARCHAR", "type name tbl_name"), ("INTEGER", "rootpage"), ("VARCHAR", "sql")],
  systemView "sqlite_temp_schema" [
    ("VARCHAR", "type name tbl_name"), ("INTEGER", "rootpage"), ("VARCHAR", "sql")]]

def catalogViews : List CatalogTable := [
  systemView "pg_am" [
    ("INTEGER", "oid"), ("VARCHAR", "amname"), ("\"NULL\"", "amhandler"), ("VARCHAR", "amtype")],
  systemView "pg_attrdef" [
    ("INTEGER", "oid"), ("BIGINT", "adrelid"), ("INTEGER", "adnum"), ("VARCHAR", "adbin")],
  systemView "pg_attribute" [
    ("BIGINT", "attrelid"), ("VARCHAR", "attname"), ("BIGINT", "atttypid"),
    ("INTEGER", "attstattarget"), ("\"NULL\"", "attlen"),
    ("INTEGER", "attnum attndims attcacheoff atttypmod"), ("BOOLEAN", "attbyval"),
    ("\"NULL\"", "attstorage attalign"), ("BOOLEAN", "attnotnull atthasdef atthasmissing"),
    ("VARCHAR", "attidentity attgenerated"), ("BOOLEAN", "attisdropped attislocal"),
    ("INTEGER", "attinhcount attcollation"),
    ("\"NULL\"", "attcompression attacl attoptions attfdwoptions attmissingval")],
  systemView "pg_class" [
    ("BIGINT", "oid"), ("VARCHAR", "relname"), ("BIGINT", "relnamespace"),
    ("INTEGER", "reltype reloftype relowner relam relfilenode reltablespace relpages"),
    ("FLOAT", "reltuples"), ("INTEGER", "relallvisible reltoastrelid"), ("BIGINT", "reltoastidxid"),
    ("BOOLEAN", "relhasindex relisshared"), ("VARCHAR", "relpersistence relkind"),
    ("BIGINT", "relnatts relchecks"),
    ("BOOLEAN", "relhasoids relhaspkey relhasrules relhastriggers relhassubclass relrowsecurity"),
    ("BOOLEAN", "relispopulated"), ("\"NULL\"", "relreplident"), ("BOOLEAN", "relispartition"),
    ("INTEGER", "relrewrite relfrozenxid"),
    ("\"NULL\"", "relminmxid relacl reloptions relpartbound")],
  systemView "pg_collation" [
    ("BIGINT", "oid"), ("VARCHAR", "collname")],
  systemView "pg_constraint" [
    ("BIGINT", "oid"), ("VARCHAR", "conname"), ("BIGINT", "connamespace"), ("VARCHAR", "contype"),
    ("BOOLEAN", "condeferrable condeferred convalidated"), ("BIGINT", "conrelid"),
    ("INTEGER", "contypid conindid conparentid confrelid"),
    ("\"NULL\"", "confupdtype confdeltype confmatchtype"), ("BOOLEAN", "conislocal"),
    ("INTEGER", "coninhcount"), ("BOOLEAN", "connoinherit"), ("BIGINT[]", "conkey"),
    ("\"NULL\"", "confkey conpfeqop conppeqop conffeqop conexclop"), ("VARCHAR", "conbin")],
  systemView "pg_database" [
    ("BIGINT", "oid"), ("VARCHAR", "datname"), ("BOOLEAN", "datistemplate datallowconn")],
  systemView "pg_depend" [
    ("BIGINT", "classid objid"), ("INTEGER", "objsubid"), ("BIGINT", "refclassid refobjid"),
    ("INTEGER", "refobjsubid"), ("VARCHAR", "deptype")],
  systemView "pg_description" [
    ("BIGINT", "objoid classoid"), ("INTEGER", "objsubid"), ("VARCHAR", "description")],
  systemView "pg_enum" [
    ("\"NULL\"", "oid"), ("BIGINT", "enumtypid"), ("INTEGER", "enumsortorder"),
    ("VARCHAR", "enumlabel")],
  systemView "pg_index" [
    ("BIGINT", "indexrelid indrelid"), ("INTEGER", "indnatts indnkeyatts"),
    ("BOOLEAN", "indisunique indisprimary indisexclusion indimmediate indisclustered indisvalid"),
    ("BOOLEAN", "indcheckxmin indisready indislive indisreplident"), ("INTEGER[]", "indkey"),
    ("BIGINT[]", "indcollation indclass"), ("INTEGER[]", "indoption"), ("VARCHAR", "indexprs"),
    ("\"NULL\"", "indpred")],
  systemView "pg_indexes" [
    ("VARCHAR", "schemaname tablename indexname"), ("\"NULL\"", "tablespace"),
    ("VARCHAR", "indexdef")],
  systemView "pg_namespace" [
    ("BIGINT", "oid"), ("VARCHAR", "nspname"), ("INTEGER", "nspowner"), ("\"NULL\"", "nspacl")],
  systemView "pg_prepared_statements" [
    ("VARCHAR", "name statement"), ("\"NULL\"", "prepare_time"),
    ("VARCHAR[]", "parameter_types result_types"),
    ("\"NULL\"", "from_sql generic_plans custom_plans")],
  systemView "pg_proc" [
    ("BIGINT", "oid"), ("VARCHAR", "proname"), ("BIGINT", "pronamespace"), ("\"NULL\"", "proowner"),
    ("INTEGER", "prolang procost prorows"), ("VARCHAR", "provariadic"), ("INTEGER", "prosupport"),
    ("VARCHAR", "prokind"), ("BOOLEAN", "prosecdef proleakproof proisstrict proretset"),
    ("VARCHAR", "provolatile proparallel"), ("BIGINT", "pronargs"), ("INTEGER", "pronargdefaults"),
    ("VARCHAR", "prorettype"), ("VARCHAR[]", "proargtypes"),
    ("\"NULL\"", "proallargtypes proargmodes"), ("VARCHAR[]", "proargnames"),
    ("\"NULL\"", "proargdefaults protrftypes prosrc probin"), ("VARCHAR", "prosqlbody"),
    ("\"NULL\"", "proconfig proacl"), ("BOOLEAN", "proisagg")],
  systemView "pg_sequence" [
    ("BIGINT", "seqrelid"), ("INTEGER", "seqtypid"),
    ("BIGINT", "seqstart seqincrement seqmax seqmin"), ("INTEGER", "seqcache"),
    ("BOOLEAN", "seqcycle")],
  systemView "pg_sequences" [
    ("VARCHAR", "schemaname sequencename sequenceowner"), ("INTEGER", "data_type"),
    ("BIGINT", "start_value min_value max_value increment_by"), ("BOOLEAN", "cycle"),
    ("INTEGER", "cache_size"), ("BIGINT", "last_value")],
  systemView "pg_settings" [
    ("VARCHAR", "name setting short_desc vartype")],
  systemView "pg_tables" [
    ("VARCHAR", "schemaname tablename tableowner"), ("\"NULL\"", "tablespace"),
    ("BOOLEAN", "hasindexes hasrules hastriggers")],
  systemView "pg_tablespace" [
    ("INTEGER", "oid"), ("VARCHAR", "spcname"), ("INTEGER", "spcowner"),
    ("\"NULL\"", "spcacl spcoptions")],
  systemView "pg_type" [
    ("BIGINT", "oid"), ("VARCHAR", "typname"), ("BIGINT", "typnamespace"), ("INTEGER", "typowner"),
    ("BIGINT", "typlen"), ("BOOLEAN", "typbyval"), ("VARCHAR", "typtype typcategory"),
    ("BOOLEAN", "typispreferred typisdefined"),
    ("\"NULL\"", "typdelim typrelid typsubscript typelem typarray typinput typoutput typreceive"),
    ("\"NULL\"", "typsend typmodin typmodout typanalyze"), ("VARCHAR", "typalign typstorage"),
    ("\"NULL\"", "typnotnull typbasetype typtypmod typndims typcollation typdefaultbin"),
    ("\"NULL\"", "typdefault typacl")],
  systemView "pg_views" [
    ("VARCHAR", "schemaname viewname viewowner definition")]]

def informationViews : List CatalogTable := [
  systemView "character_sets" [
    ("VARCHAR", "character_set_catalog character_set_schema character_set_name"),
    ("VARCHAR", "character_repertoire form_of_use default_collate_catalog"),
    ("VARCHAR", "default_collate_schema default_collate_name")],
  systemView "check_constraints" [
    ("VARCHAR", "constraint_catalog constraint_schema constraint_name check_clause")],
  systemView "columns" [
    ("VARCHAR", "table_catalog table_schema table_name column_name"),
    ("INTEGER", "ordinal_position"), ("VARCHAR", "column_default is_nullable data_type"),
    ("INTEGER", "character_maximum_length character_octet_length numeric_precision"),
    ("INTEGER", "numeric_precision_radix numeric_scale datetime_precision"),
    ("VARCHAR", "interval_type"), ("INTEGER", "interval_precision"),
    ("VARCHAR", "character_set_catalog character_set_schema character_set_name"),
    ("VARCHAR", "collation_catalog collation_schema collation_name domain_catalog domain_schema"),
    ("VARCHAR", "domain_name udt_catalog udt_schema udt_name scope_catalog scope_schema"),
    ("VARCHAR", "scope_name"), ("BIGINT", "maximum_cardinality"), ("VARCHAR", "dtd_identifier"),
    ("BOOLEAN", "is_self_referencing is_identity"),
    ("VARCHAR", "identity_generation identity_start identity_increment identity_maximum"),
    ("VARCHAR", "identity_minimum"), ("BOOLEAN", "identity_cycle"),
    ("VARCHAR", "is_generated generation_expression"), ("BOOLEAN", "is_updatable"),
    ("VARCHAR", "COLUMN_COMMENT")],
  systemView "constraint_column_usage" [
    ("VARCHAR", "table_catalog table_schema table_name column_name constraint_catalog"),
    ("VARCHAR", "constraint_schema constraint_name constraint_type constraint_text")],
  systemView "constraint_table_usage" [
    ("VARCHAR", "table_catalog table_schema table_name constraint_catalog constraint_schema"),
    ("VARCHAR", "constraint_name constraint_type")],
  systemView "key_column_usage" [
    ("VARCHAR", "constraint_catalog constraint_schema constraint_name table_catalog"),
    ("VARCHAR", "table_schema table_name column_name"), ("BIGINT", "ordinal_position"),
    ("INTEGER", "position_in_unique_constraint")],
  systemView "referential_constraints" [
    ("VARCHAR", "constraint_catalog constraint_schema constraint_name unique_constraint_catalog"),
    ("VARCHAR", "unique_constraint_schema unique_constraint_name match_option update_rule"),
    ("VARCHAR", "delete_rule")],
  systemView "schemata" [
    ("VARCHAR", "catalog_name schema_name schema_owner default_character_set_catalog"),
    ("VARCHAR", "default_character_set_schema default_character_set_name sql_path")],
  systemView "table_constraints" [
    ("VARCHAR", "constraint_catalog constraint_schema constraint_name table_catalog"),
    ("VARCHAR", "table_schema table_name constraint_type is_deferrable initially_deferred"),
    ("VARCHAR", "enforced nulls_distinct")],
  systemView "tables" [
    ("VARCHAR", "table_catalog table_schema table_name table_type self_referencing_column_name"),
    ("VARCHAR", "reference_generation user_defined_type_catalog user_defined_type_schema"),
    ("VARCHAR", "user_defined_type_name is_insertable_into is_typed commit_action TABLE_COMMENT")],
  systemView "views" [
    ("VARCHAR", "table_catalog table_schema table_name view_definition check_option"),
    ("VARCHAR", "is_updatable is_insertable_into is_trigger_updatable is_trigger_deletable"),
    ("VARCHAR", "is_trigger_insertable_into")]]

def systemSchemas : List CatalogSchema := [
  ⟨"system", "main", mainViews⟩, ⟨"system", "pg_catalog", catalogViews⟩,
  ⟨"system", "information_schema", informationViews⟩]

end TableGraph.DuckDb
