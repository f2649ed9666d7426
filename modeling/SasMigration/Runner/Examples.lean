import SasMigration.Value.Basic

namespace SasMigration

structure ExampleScript where
  id : Text
  name : Text
  description : Text
  code : Text
deriving DecidableEq, Repr

namespace ExampleScript

def greeting : Text :=
  Text.unlines <| List.map String.toList
    ["",
     "import time",
     "import random",
     "",
     "# Print welcome message",
     "print(\"Hello, World!\")",
     "print(\"This is a test script that will generate a lot of logs to test real-time logging functionality\")",
     "",
     "# Simulate a long-running task",
     "total_steps = 50",
     "for step in range(1, total_steps + 1):",
     "    # Generate random delay",
     "    delay = random.uniform(0.1, 0.5)",
     "    ",
     "    # Print progress",
     "    print(f\"[\x7bstep\x7d/\x7btotal_steps\x7d] Processing step \x7bstep\x7d...\")",
     "    ",
     "    # Simulate some random logs",
     "    log_count = random.randint(1, 3)",
     "    for i in range(log_count):",
     "        log_type = random.choice([\"INFO\", \"DEBUG\", \"WARNING\"])",
     "        if log_type == \"INFO\":",
     "            print(f\"INFO: Step \x7bstep\x7d - Executing subtask \x7bi+1\x7d\")",
     "        elif log_type == \"DEBUG\":",
     "            print(f\"DEBUG: Step \x7bstep\x7d - Memory usage: \x7brandom.randint(100, 500)\x7dMB, CPU usage: \x7brandom.randint(10, 90)\x7d%\")",
     "        else:",
     "            print(f\"WARNING: Step \x7bstep\x7d - Performance may be poor, response time: \x7brandom.randint(100, 1000)\x7dms\")",
     "    ",
     "    # Randomly generate some calculation results",
     "    if step % 5 == 0:",
     "        result = random.random() * 100",
     "        print(f\"Calculation result: \x7bresult:.2f\x7d\")",
     "        ",
     "        # Simulate data processing",
     "        print(\"Processing data...\")",
     "        for j in range(3):",
     "            print(f\"  - Processing data block \x7bj+1\x7d/3: \x7b'Completed' if random.random() > 0.2 else 'Partially completed'\x7d\")",
     "    ",
     "    # Delay for a while",
     "    time.sleep(delay)",
     "    ",
     "    # Print completion message",
     "    print(f\"Step \x7bstep\x7d completed, time taken: \x7bdelay:.2f\x7d seconds\")",
     "",
     "# Print summary",
     "print(\"All steps completed!\")",
     "print(\"Generating final report...\")",
     "time.sleep(1)",
     "",
     "# Generate random statistics",
     "stats = \x7b",
     "    \"Processed items\": random.randint(100, 500),",
     "    \"Success rate\": random.uniform(90, 99.9),",
     "    \"Average processing time\": random.uniform(0.1, 0.5),",
     "    \"Total time\": sum([random.uniform(0.1, 0.5) for _ in range(total_steps)])",
     "\x7d",
     "",
     "# Print statistics",
     "print(\"\\nStatistics:\")",
     "for key, value in stats.items():",
     "    if isinstance(value, float):",
     "        print(f\"  - \x7bkey\x7d: \x7bvalue:.2f\x7d\")",
     "    else:",
     "        print(f\"  - \x7bkey\x7d: \x7bvalue\x7d\")",
     "",
     "print(\"\\nTest script execution completed!\")",
     ""]

def processing : Text :=
  Text.unlines <| List.map String.toList
    ["",
     "import pandas as pd",
     "import numpy as np",
     "import matplotlib.pyplot as plt",
     "import time",
     "import random",
     "",
     "# Create sample data",
     "print(\"Generating sample data...\")",
     "np.random.seed(42)",
     "data_size = 10000",
     "data = \x7b",
     "    'id': range(1, data_size + 1),",
     "    'value': np.random.normal(100, 15, data_size),",
     "    'category': np.random.choice(['A', 'B', 'C', 'D'], data_size),",
     "    'timestamp': pd.date_range(start='2023-01-01', periods=data_size, freq='H')",
     "\x7d",
     "",
     "# Create DataFrame",
     "print(\"Creating DataFrame...\")",
     "df = pd.DataFrame(data)",
     "print(f\"Dataset size: \x7bdf.shape\x7d\")",
     "print(\"First 5 rows of dataset:\")",
     "print(df.head())",
     "",
     "# Data processing",
     "print(\"\\nStarting data processing...\")",
     "steps = [",
     "    \"Data cleaning\",",
     "    \"Feature engineering\",",
     "    \"Data transformation\",",
     "    \"Statistical analysis\",",
     "    \"Data visualization\"",
     "]",
     "",
     "for i, step in enumerate(steps, 1):",
     "    print(f\"\\n[\x7bi\x7d/\x7blen(steps)\x7d] Executing: \x7bstep\x7d\")",
     "    ",
     "    # Simulate processing time",
     "    process_time = random.uniform(1, 2)",
     "    ",
     "    if step == \"Data cleaning\":",
     "        print(\"Checking for missing values...\")",
     "        missing = df.isnull().sum()",
     "        print(f\"Missing values statistics:\\n\x7bmissing\x7d\")",
     "        ",
     "        print(\"Checking for outliers...\")",
     "        q1 = df['value'].quantile(0.25)",
     "        q3 = df['value'].quantile(0.75)",
     "        iqr = q3 - q1",
     "        lower_bound = q1 - 1.5 * iqr",
     "        upper_bound = q3 + 1.5 * iqr",
     "        outliers = df[(df['value'] < lower_bound) | (df['value'] > upper_bound)]",
     "        print(f\"Detected \x7blen(outliers)\x7d outliers\")",
     "        ",
     "        # Remove outliers",
     "        df = df[(df['value'] >= lower_bound) & (df['value'] <= upper_bound)]",
     "        print(f\"Dataset size after removing outliers: \x7bdf.shape\x7d\")",
     "    ",
     "    elif step == \"Feature engineering\":",
     "        print(\"Creating new features...\")",
     "        df['log_value'] = np.log1p(df['value'])",
     "        df['value_squared'] = df['value'] ** 2",
     "        df['day_of_week'] = df['timestamp'].dt.dayofweek",
     "        df['hour_of_day'] = df['timestamp'].dt.hour",
     "        print(\"New features created, first 5 rows of new dataset:\")",
     "        print(df.head())",
     "    ",
     "    elif step == \"Data transformation\":",
     "        print(\"One-hot encoding categorical features...\")",
     "        df_encoded = pd.get_dummies(df, columns=['category'])",
     "        print(f\"Dataset size after encoding: \x7bdf_encoded.shape\x7d\")",
     "        print(\"First 5 rows after encoding:\")",
     "        print(df_encoded.head())",
     "        ",
     "        print(\"\\nStandardizing numerical features...\")",
     "        for col in ['value', 'log_value', 'value_squared']:",
     "            mean = df[col].mean()",
     "            std = df[col].std()",
     "            df[f'\x7bcol\x7d_scaled'] = (df[col] - mean) / std",
     "        print(\"Standardization completed\")",
     "    ",
     "    elif step == \"Statistical analysis\":",
     "        print(\"Calculating basic statistics...\")",
     "        stats = df['value'].describe()",
     "        print(f\"Basic statistics:\\n\x7bstats\x7d\")",
     "        ",
     "        print(\"\\nGrouping statistics by category...\")",
     "        group_stats = df.groupby('category')['value'].agg(['count', 'mean', 'std', 'min', 'max'])",
     "        print(f\"Group statistics:\\n\x7bgroup_stats\x7d\")",
     "        ",
     "        print(\"\\nCalculating correlations...\")",
     "        numeric_cols = ['value', 'log_value', 'value_squared', 'day_of_week', 'hour_of_day']",
     "        corr = df[numeric_cols].corr()",
     "        print(f\"Correlation matrix:\\n\x7bcorr\x7d\")",
     "    ",
     "    elif step == \"Data visualization\":",
     "        print(\"Generating data visualizations...\")",
     "        print(\"(Note: In API environment, graphics won't be displayed, just simulating the process)\")",
     "        ",
     "        print(\"Generating histogram...\")",
     "        time.sleep(0.5)",
     "        ",
     "        print(\"Generating box plot...\")",
     "        time.sleep(0.5)",
     "        ",
     "        print(\"Generating scatter plot...\")",
     "        time.sleep(0.5)",
     "        ",
     "        print(\"Generating time series plot...\")",
     "        time.sleep(0.5)",
     "        ",
     "        print(\"Visualization completed\")",
     "    ",
     "    # Simulate processing time",
     "    time.sleep(process_time)",
     "    print(f\"\x7bstep\x7d completed, time taken: \x7bprocess_time:.2f\x7d seconds\")",
     "",
     "print(\"\\nAll data processing steps completed!\")",
     "print(\"Generating final report...\")",
     "time.sleep(1)",
     "",
     "# Generate final statistics",
     "print(\"\\nFinal statistics:\")",
     "print(f\"- Original dataset size: \x7bdata_size\x7d\")",
     "print(f\"- Processed dataset size: \x7bdf.shape[0]\x7d\")",
     "print(f\"- Number of features: \x7bdf.shape[1]\x7d\")",
     "print(f\"- Number of categories: \x7bdf['category'].nunique()\x7d\")",
     "print(f\"- Mean value: \x7bdf['value'].mean():.2f\x7d\")",
     "print(f\"- Standard deviation: \x7bdf['value'].std():.2f\x7d\")",
     "print(f\"- Minimum value: \x7bdf['value'].min():.2f\x7d\")",
     "print(f\"- Maximum value: \x7bdf['value'].max():.2f\x7d\")",
     "",
     "print(\"\\nData processing example execution completed!\")",
     ""]

def all : List ExampleScript :=
  [⟨"hello_world", "Hello World Example",
    "A simple Hello World example that generates a lot of logs to test real-time " ++
      "logging functionality", greeting⟩,
    ⟨"data_processing", "Data Processing Example",
    "A data processing example using pandas and numpy", processing⟩]

def find? (id : Text) : Option ExampleScript := all.find? fun e ↦ e.id == id

def toFields (e : ExampleScript) : Fields :=
  [("name", .text e.name), ("description", .text e.description), ("code", .text e.code)]

def document : Fields := all.map fun e ↦ (e.id, .object e.toFields)

end ExampleScript

end SasMigration
