/-! The parts of a runner that are the same in all runners: the headers that it includes, the
types of its tables, and the program that runs the tests of the tables one by one, each in a
process of its own. -/
namespace AnnotatedTests

def systemHeaders : List String :=
  ["stdarg.h", "stddef.h", "setjmp.h", "stdint.h", "errno.h", "stdio.h", "stdlib.h", "string.h",
    "signal.h", "unistd.h", "sys/types.h", "sys/wait.h", "cmocka.h"]

/-- The exit codes, results and table types of a runner. -/
def runnerTypes : List String :=
  [
    "#define RUNNER_EXIT_BAD_ARGUMENTS 255",
    "#define RUNNER_MAX_EXIT_CODE 254",
    "",
    "enum runner_result \x7b",
    "  RUNNER_PASSED = 0,",
    "  RUNNER_FAILED = 1,",
    "  RUNNER_ERRORED = 2,",
    "  RUNNER_TIMED_OUT = 3,",
    "  RUNNER_SKIPPED = 4",
    "\x7d;",
    "",
    "struct runner_test \x7b",
    "  const char *name;",
    "  CMUnitTestFunction test;",
    "  CMFixtureFunction setup;",
    "  CMFixtureFunction teardown;",
    "  int disabled;",
    "  unsigned int timeout;",
    "\x7d;",
    "",
    "struct runner_group \x7b",
    "  const char *name;",
    "  const struct runner_test *tests;",
    "  size_t count;",
    "\x7d;"]

def runnerProgram : List String :=
  [
    "static const char *const runner_labels[] = \x7b",
    "  \"[       OK ]\",",
    "  \"[  FAILED  ]\",",
    "  \"[  ERROR   ]\",",
    "  \"[ TIMEOUT  ]\",",
    "  \"[  SKIPPED ]\"",
    "\x7d;",
    "",
    "static const struct runner_test *runner_current;",
    "static int runner_fixture_failed;",
    "",
    "static int runner_setup(void **state)",
    "\x7b",
    "  if (runner_current->setup != NULL && runner_current->setup(state) != 0) \x7b",
    "    runner_fixture_failed = 1;",
    "    return -1;",
    "  \x7d",
    "  return 0;",
    "\x7d",
    "",
    "static int runner_teardown(void **state)",
    "\x7b",
    "  if (runner_current->teardown != NULL && runner_current->teardown(state) != 0) \x7b",
    "    runner_fixture_failed = 1;",
    "    return -1;",
    "  \x7d",
    "  return 0;",
    "\x7d",
    "",
    "static int runner_child(const struct runner_group *group, const struct runner_test *test)",
    "\x7b",
    "  struct CMUnitTest unit[1];",
    "  int failed;",
    "",
    "  runner_current = test;",
    "  unit[0].name = test->name;",
    "  unit[0].test_func = test->test;",
    "  unit[0].setup_func = runner_setup;",
    "  unit[0].teardown_func = runner_teardown;",
    "  unit[0].initial_state = NULL;",
    "",
    "  alarm(test->timeout);",
    "  failed = cmocka_run_group_tests_name(group->name, unit, NULL, NULL);",
    "  alarm(0);",
    "",
    "  if (runner_fixture_failed)",
    "    return RUNNER_ERRORED;",
    "  return failed ? RUNNER_FAILED : RUNNER_PASSED;",
    "\x7d",
    "",
    "static enum runner_result runner_run(const struct runner_group *group, const struct runner_test *test)",
    "\x7b",
    "  pid_t pid;",
    "  int status;",
    "",
    "  fflush(stdout);",
    "  fflush(stderr);",
    "  pid = fork();",
    "  if (pid < 0) \x7b",
    "    perror(\"fork\");",
    "    return RUNNER_ERRORED;",
    "  \x7d",
    "  if (pid == 0) \x7b",
    "    status = runner_child(group, test);",
    "    fflush(stdout);",
    "    fflush(stderr);",
    "    _exit(status);",
    "  \x7d",
    "",
    "  while (waitpid(pid, &status, 0) < 0) \x7b",
    "    if (errno != EINTR) \x7b",
    "      perror(\"waitpid\");",
    "      return RUNNER_ERRORED;",
    "    \x7d",
    "  \x7d",
    "  if (WIFSIGNALED(status))",
    "    return WTERMSIG(status) == SIGALRM ? RUNNER_TIMED_OUT : RUNNER_ERRORED;",
    "  if (WIFEXITED(status) && WEXITSTATUS(status) <= RUNNER_TIMED_OUT)",
    "    return (enum runner_result)WEXITSTATUS(status);",
    "  return RUNNER_ERRORED;",
    "\x7d",
    "",
    "static int runner_selected(const char *name, int argc, char *argv[])",
    "\x7b",
    "  int i;",
    "",
    "  for (i = 1; i < argc; i++) \x7b",
    "    if (strcmp(name, argv[i]) == 0)",
    "      return 1;",
    "  \x7d",
    "  return 0;",
    "\x7d",
    "",
    "static int runner_known(const char *name)",
    "\x7b",
    "  const struct runner_group *group;",
    "  size_t i;",
    "",
    "  for (group = runner_groups; group->name != NULL; group++) \x7b",
    "    if (strcmp(group->name, name) == 0)",
    "      return 1;",
    "    for (i = 0; i < group->count; i++) \x7b",
    "      if (strcmp(group->tests[i].name, name) == 0)",
    "        return 1;",
    "    \x7d",
    "  \x7d",
    "  return 0;",
    "\x7d",
    "",
    "int main(int argc, char *argv[])",
    "\x7b",
    "  const struct runner_group *group;",
    "  const struct runner_test *test;",
    "  enum runner_result result;",
    "  unsigned long counts[5] = \x7b 0, 0, 0, 0, 0 \x7d;",
    "  unsigned long failures;",
    "  size_t i;",
    "  int everything;",
    "",
    "  for (i = 1; i < (size_t)argc; i++) \x7b",
    "    if (!runner_known(argv[i])) \x7b",
    "      fprintf(stderr, \"unknown test or group: %s\\n\", argv[i]);",
    "      return RUNNER_EXIT_BAD_ARGUMENTS;",
    "    \x7d",
    "  \x7d",
    "",
    "  for (group = runner_groups; group->name != NULL; group++) \x7b",
    "    everything = argc < 2 || runner_selected(group->name, argc, argv);",
    "    for (i = 0; i < group->count; i++) \x7b",
    "      test = &group->tests[i];",
    "      if (!everything && !runner_selected(test->name, argc, argv))",
    "        continue;",
    "      if (test->disabled) \x7b",
    "        result = RUNNER_SKIPPED;",
    "      \x7d else \x7b",
    "        printf(\"[ RUN      ] %s.%s\\n\", group->name, test->name);",
    "        result = runner_run(group, test);",
    "      \x7d",
    "      if (result == RUNNER_TIMED_OUT)",
    "        printf(\"%s %s.%s (%us)\\n\", runner_labels[result], group->name, test->name, test->timeout);",
    "      else",
    "        printf(\"%s %s.%s\\n\", runner_labels[result], group->name, test->name);",
    "      counts[result]++;",
    "    \x7d",
    "  \x7d",
    "",
    "  printf(\"[==========] %lu passed, %lu failed, %lu errored, %lu timed out, %lu skipped\\n\",",
    "         counts[RUNNER_PASSED], counts[RUNNER_FAILED], counts[RUNNER_ERRORED],",
    "         counts[RUNNER_TIMED_OUT], counts[RUNNER_SKIPPED]);",
    "",
    "  failures = counts[RUNNER_FAILED] + counts[RUNNER_ERRORED] + counts[RUNNER_TIMED_OUT];",
    "  return failures > RUNNER_MAX_EXIT_CODE ? RUNNER_MAX_EXIT_CODE : (int)failures;",
    "\x7d"]

end AnnotatedTests
